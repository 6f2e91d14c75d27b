import AssetRegistry.Proofs.Paging

namespace AssetRegistry

namespace Settings

/-- The number of rows on a page, where nothing else is asked for. -/
def usualRows (env : Environment) : Int64 := ((env "API_DEFAULT_PAGE_SIZE").bind Text.int64?).getD 10

/-- The greatest number of rows that may be asked for. -/
def mostRows (env : Environment) : Int64 := ((env "API_MAX_PAGE_SIZE").bind Text.int64?).getD 100

/-- All profiles agree on the numbers of rows. -/
theorem rows_ofEnvironment (env : Environment) : (ofEnvironment env).api.defaultPageSize = usualRows env ∧
    (ofEnvironment env).api.maxPageSize = mostRows env := by
  unfold ofEnvironment
  cases profileOf (env "APP_ENV") <;> exact ⟨rfl, rfl⟩

end Settings

namespace Web

open Store Query

namespace Params

/-- The number of rows that is asked for, if it is one of 64 bits. -/
def rowsAsked (ps : Params) : Option Int64 := (ps.given "limit").head?.bind Text.int64?

/-- What is allowed is given, and what is not is replaced by the usual number. -/
theorem pageSize_cases (ps : Params) (usual most : Int64) :
    (∃ n, ps.rowsAsked = some n ∧ 1 ≤ n.toInt ∧ n.toInt ≤ most.toInt ∧ ps.pageSize usual most = n) ∨
      (¬∃ n, ps.rowsAsked = some n ∧ 1 ≤ n.toInt ∧ n.toInt ≤ most.toInt) ∧ ps.pageSize usual most = usual := by
  have size : ps.pageSize usual most =
      (ps.rowsAsked.filter fun n => 1 ≤ n.toInt ∧ n.toInt ≤ most.toInt).getD usual := rfl
  rw [size]
  cases ps.rowsAsked with
  | none => exact Or.inr ⟨nofun, rfl⟩
  | some n =>
    by_cases allowed : 1 ≤ n.toInt ∧ n.toInt ≤ most.toInt
    · rw [Option.filter_some_pos (by simpa using allowed)]
      exact Or.inl ⟨n, rfl, allowed.1, allowed.2, rfl⟩
    · rw [Option.filter_some_neg (by simpa using allowed)]
      refine Or.inr ⟨?_, rfl⟩
      rintro ⟨_, ⟨⟩, some⟩
      exact allowed some

/-- A page is within the greatest number, unless the usual number is not and nothing allowed is asked for. -/
theorem pageSize_le_iff (ps : Params) (usual most : Int64) : (ps.pageSize usual most).toInt ≤ most.toInt ↔
    usual.toInt ≤ most.toInt ∨ ∃ n, ps.rowsAsked = some n ∧ 1 ≤ n.toInt ∧ n.toInt ≤ most.toInt := by
  obtain ⟨n, asked, least, within, size⟩ | ⟨nothing, size⟩ := ps.pageSize_cases usual most <;> rw [size]
  · exact iff_of_true within (Or.inr ⟨n, asked, least, within⟩)
  · exact (or_iff_left nothing).symm

end Params

namespace App
variable {app : App} {r : Request} {l : Listing}

/-- The numbers of rows of a service are the ones of its environment. -/
theorem rows_ofSettings {env : Environment} {now : Instant}
    (settled : ofSettings now (Settings.ofEnvironment env) = .ok app) :
    app.api.defaultPageSize = Settings.usualRows env ∧ app.api.maxPageSize = Settings.mostRows env := by
  obtain ⟨issuer, -, made⟩ := ok_of_bind settled
  obtain rfl := Except.ok.inj made
  exact Settings.rows_ofEnvironment env

/-- HEAD has a list found out as GET does. -/
theorem handle_served (listed : servedMethod r.method = "GET") :
    handle app r (.guarded l.route) = handle app { r with method := "GET" } (.guarded l.route) := by
  have served : (Route.guarded l.route).methods.contains r.method = true := by
    have either : r.method = "HEAD" ∨ r.method = "GET" := by
      unfold servedMethod at listed
      split at listed
      next head => exact Or.inl head
      next => exact Or.inr listed
    obtain same | same := either <;> rw [same] <;> cases l <;> decide
  have servedGet : (Route.guarded l.route).methods.contains "GET" = true := by cases l <;> decide
  have work (actor : Actor) :
      serveGuarded app actor r l.route = serveGuarded app actor { r with method := "GET" } l.route := by
    cases l with
    | assets =>
      show (if servedMethod r.method = "GET" then listAssets app r else _) = _
      rw [if_pos listed]
      rfl
    | users =>
      show (if servedMethod r.method = "GET" then listUsers app r else _) = _
      rw [if_pos listed]
      rfl
  unfold handle
  dsimp only
  rw [served, servedGet]
  exact congrArg (allow (letIn app r l.route) >>= ·) (funext work)

/-- HEAD sends what GET sends. -/
theorem sent_served (asks : app.Asks { r with method := servedMethod r.method } l) (replies : Nat → Reply) :
    ((app.answer r).against replies).1 = ((app.answer { r with method := "GET" }).against replies).1 := by
  have listed : servedMethod r.method = "GET" := asks.method
  have asksGet : app.Asks { r with method := "GET" } l := by rwa [listed] at asks
  have asked : app.isPreflight r = false := by
    unfold isPreflight
    rw [Bool.and_eq_false_imp]
    intro _
    refine decide_eq_false fun options => ?_
    rw [options] at listed
    revert listed
    decide
  rw [sent_eq (r := r) asks.route asked, handle_served listed, asksGet.handle_eq, asksGet.against_answer]

/-- Whatever is sent for a list shows a page of the size that is found for it. -/
theorem Asks.shows_of_sent (asks : app.Asks r l) {replies : Nat → Reply} {q : Statement} {reply : Reply}
    (sent : (.statement q, reply) ∈ ((app.answer r).against replies).1) :
    1 ≤ (app.pageSize r.params).toInt ∧ ∃ offset, Shows q (app.pageSize r.params).toInt offset := by
  by_cases rows : 1 ≤ (app.pageSize r.params).toInt
  · refine ⟨rows, ?_⟩
    by_cases admitted : ∀ f ∈ l.facets, f.Admits r.params
    · obtain ⟨q', sends, shows'⟩ := asks.shows admitted rows
      rw [sends, List.mem_singleton] at sent
      cases sent
      exact ⟨_, shows'⟩
    · rw [(asks.refused admitted replies).1] at sent
      cases sent
  · rw [(asks.shows_nothing (by omega) replies).1] at sent
    cases sent

/-- A list request reads at least one row. It reads no more than the greatest number if the usual number is within that
one or an allowed number is asked for, and otherwise it reads the usual number, which is more. -/
theorem rows_within {env : Environment} {now : Instant}
    (settled : ofSettings now (Settings.ofEnvironment env) = .ok app)
    (asks : app.Asks { r with method := servedMethod r.method } l) {replies : Nat → Reply} {q : Statement} {reply : Reply}
    (sent : (.statement q, reply) ∈ ((app.answer r).against replies).1) :
    ∃ rows offset, Shows q rows offset ∧ 1 ≤ rows ∧
      (rows ≤ (Settings.mostRows env).toInt ↔ (Settings.usualRows env).toInt ≤ (Settings.mostRows env).toInt ∨
        ∃ n, r.params.rowsAsked = some n ∧ 1 ≤ n.toInt ∧ n.toInt ≤ (Settings.mostRows env).toInt) ∧
      ((Settings.mostRows env).toInt < rows → rows = (Settings.usualRows env).toInt) := by
  obtain ⟨usual, most⟩ := rows_ofSettings settled
  have listed : servedMethod r.method = "GET" := asks.method
  rw [sent_served asks] at sent
  rw [listed] at asks
  obtain ⟨least, offset, shows'⟩ := asks.shows_of_sent sent
  have size : app.pageSize (Request.params { r with method := "GET" }) =
      r.params.pageSize (Settings.usualRows env) (Settings.mostRows env) := by
    rw [pageSize, usual, most]
    rfl
  rw [size] at least shows'
  refine ⟨_, offset, shows', least, r.params.pageSize_le_iff _ _, fun more => ?_⟩
  · obtain ⟨n, -, -, within, same⟩ | ⟨-, same⟩ := r.params.pageSize_cases (Settings.usualRows env) (Settings.mostRows env)
    · rw [same] at more
      omega
    · rw [same]

end App

/-- An environment that says no more than some numbers of rows. -/
def rowsEnvironment (usual most : Option String) : Environment := fun name =>
  if name = "API_DEFAULT_PAGE_SIZE" then usual else if name = "API_MAX_PAGE_SIZE" then most else none

/-- The service in that environment, as the epoch begins. -/
def rowsApp (usual most : Int64) : App where
  desk :=
    { issuer := { secret := Text.utf8 "development-secret-change-me", accessLifetime := 900, refreshLifetime := 604800 }
      policy := .ofDomain "remotestate.com"
      now := ⟨0⟩ }
  api := { listensOn := 8080, requestTimeout := 60, defaultPageSize := usual, maxPageSize := most }
  enableCors := true

/-- The list of users, or of assets, for an administrator. -/
def rowsRequest (method target : String) : Request :=
  .carrying method target ((rowsApp 0 0).desk.issuer.sign adminClaims.toJson)

/-- Where the usual number is more than the greatest one, whoever asks for no number gets more rows than anyone may ask
for. -/
theorem rows_break : ¬∀ (env : Environment) (now : Instant) (app : App) (r : Request) (l : Listing)
    (replies : Nat → Reply) (q : Statement) (reply : Reply) (rows offset : Int),
    App.ofSettings now (Settings.ofEnvironment env) = .ok app → app.Asks r l →
      (.statement q, reply) ∈ ((app.answer r).against replies).1 → Shows q rows offset →
      1 ≤ rows ∧ rows ≤ (Settings.ofEnvironment env).api.maxPageSize.toInt := by
  intro within
  have settled : App.ofSettings ⟨0⟩ (Settings.ofEnvironment (rowsEnvironment (some "500") none)) =
      .ok (rowsApp 500 100) := rfl
  have bears : (rowsApp 500 100).Bears (rowsRequest "GET" "/api/assets") adminClaims :=
    bears_of_sign _ _ rfl (by decide) (by decide)
  have asks : (rowsApp 500 100).Asks (rowsRequest "GET" "/api/assets") .assets :=
    ⟨rfl, by decide, adminClaims, bears, by decide⟩
  have size : ((rowsApp 500 100).pageSize (rowsRequest "GET" "/api/assets").params).toInt = 500 := by decide +kernel
  have admitted : ∀ f ∈ Listing.assets.facets, f.Admits (rowsRequest "GET" "/api/assets").params := by decide +kernel
  obtain ⟨q, sends, shows'⟩ := asks.shows admitted (by rw [size]; decide)
  have sent := sends fun _ => .rows []
  rw [size] at shows'
  have bounds := within _ _ _ _ _ _ q _ _ _ settled asks (by rw [sent]; exact List.mem_singleton.2 rfl) shows'
  revert bounds
  decide

/-- HEAD asks for seven users, of fifty at most. -/
theorem sevenRows_within :
    App.ofSettings ⟨0⟩ (Settings.ofEnvironment (rowsEnvironment (some "25") (some "50"))) = .ok (rowsApp 25 50) ∧
    ∃ q : Statement, (.statement q, .rows []) ∈
        (((rowsApp 25 50).answer (rowsRequest "HEAD" "/api/users?limit=7")).against fun _ => .rows []).1 ∧
      ∃ rows offset, Shows q rows offset ∧ 1 ≤ rows ∧ rows ≤ 50 := by
  have settled : App.ofSettings ⟨0⟩ (Settings.ofEnvironment (rowsEnvironment (some "25") (some "50"))) =
      .ok (rowsApp 25 50) := rfl
  have bears : (rowsApp 25 50).Bears (rowsRequest "GET" "/api/users?limit=7") adminClaims :=
    bears_of_sign _ _ rfl (by decide) (by decide)
  have asks : (rowsApp 25 50).Asks (rowsRequest "GET" "/api/users?limit=7") .users :=
    ⟨rfl, by decide, adminClaims, bears, by decide⟩
  have asksHead : (rowsApp 25 50).Asks { rowsRequest "HEAD" "/api/users?limit=7" with
      method := servedMethod (rowsRequest "HEAD" "/api/users?limit=7").method } .users := asks
  have admitted : ∀ f ∈ Listing.users.facets, f.Admits (rowsRequest "GET" "/api/users?limit=7").params := by
    decide +kernel
  obtain ⟨q, sends, -⟩ := asks.shows admitted (by decide +kernel)
  have sent : (.statement q, .rows []) ∈
      (((rowsApp 25 50).answer (rowsRequest "HEAD" "/api/users?limit=7")).against fun _ => .rows []).1 := by
    rw [App.sent_served asksHead]
    exact sends (fun _ => .rows []) ▸ List.mem_singleton.2 rfl
  obtain ⟨rows, offset, shows', least, within, -⟩ := App.rows_within settled asksHead sent
  exact ⟨settled, q, sent, rows, offset, shows', least, within.2 (Or.inl (by decide +kernel))⟩

end Web
end AssetRegistry

import AssetRegistry.Proofs.Authority
import AssetRegistry.Proofs.Facets
import AssetRegistry.Proofs.Objections

namespace AssetRegistry.Web

open Store Exchange Service

/-- What the query of a request gives. -/
def Request.params (r : Request) : Params := Params.ofQuery r.query

/-- A request for a list, by a caller who may have it. -/
structure App.Asks (app : App) (r : Request) (l : Listing) : Prop where
  method : r.method = "GET"
  path : r.path = l.path
  bearer : ∃ claims, app.Bears r claims ∧ claims.role ∈ l.roles

namespace App

/-- The number of rows on a page: as many as are asked for, if that is allowed. -/
def pageSize (app : App) (ps : Params) : Int64 := ps.pageSize app.api.defaultPageSize app.api.maxPageSize

/-- The number of rows on all pages before the one that is asked for. -/
def rowsBefore (app : App) (ps : Params) : Int := (max ps.pageNumber.toInt 1 - 1) * (app.pageSize ps).toInt

variable {app : App} {ps : Params}

theorem limit_page (app : App) (ps : Params) : (app.page ps).limit = app.pageSize ps := ps.limit_page _ _

theorem offset_page (app : App) (ps : Params) :
    (app.page ps).offset.toInt = max (-2 ^ 63) (min (2 ^ 63 - 1) (app.rowsBefore ps)) := ps.offset_page _ _

theorem rowsBefore_nonneg (rows : 1 ≤ (app.pageSize ps).toInt) : 0 ≤ app.rowsBefore ps :=
  Int.mul_nonneg (by omega) (by omega)

/-- A page that has rows begins after those of all pages before it, or else at the end of 64 bits. -/
theorem offset_page_of_rows (rows : 1 ≤ (app.pageSize ps).toInt) :
    (app.page ps).offset.toInt = min (app.rowsBefore ps) (2 ^ 63 - 1) := by
  have behind := rowsBefore_nonneg rows
  rw [offset_page]
  omega

theorem begins_page (rows : 1 ≤ (app.page ps).limit.toInt) : 0 ≤ (app.page ps).offset.toInt := by
  rw [limit_page] at rows
  have behind := rowsBefore_nonneg rows
  rw [offset_page_of_rows rows]
  omega

end App

/-- What a client is told of a query that cannot be made. -/
def queryFault : ApiError := ⟨.internal, "An error occurred while processing your request"⟩

namespace Listing

/-- The route of the list. -/
def route : Listing → GuardedRoute
  | assets => .assets
  | users => .users

/-- The statement that asks for the list. -/
def statement : Listing → Query.Rendered → Statement
  | assets => .listAssets
  | users => .listUsers

/-- The work of the list's route. -/
def handler (app : App) (r : Request) : Listing → Handling Response
  | assets => listAssets app r
  | users => listUsers app r

end Listing

/-- What is sent and what comes of it, once it is known what query is asked for. -/
structure Serves (asked : Except ApiError Query.Select) (statement : Query.Rendered → Statement) (replies : Nat → Reply)
    (run : List Event × Except Failure Response) : Prop where
  refused : ∀ e, asked = .error e → run = ([], .error (.refused e))
  unrendered : ∀ q why, asked = .ok q → q.render = .error why → run = ([], .error (.refused queryFault))
  sends : ∀ q rendered, asked = .ok q → q.render = .ok rendered → run.1 = [(.statement (statement rendered), replies 0)]

theorem against_fetchAll {α : Type} (q : Statement) (read : RowReader α) (replies : Nat → Reply) :
    ∃ result, (fetchAll q read).run.against replies = ([(.statement q, replies 0)], result) := by
  unfold fetchAll
  rw [rowsOf_eq_single]
  cases told : (replies 0).toRows with
  | error e => exact ⟨_, against_single_error told⟩
  | ok rows => exact ⟨_, against_single_ok told⟩

/-- The work on a list: what is found fit is asked for, and what comes back is told. -/
def listing {α φ : Type} (found : Except ApiError φ) (query : φ → Query.Select) (statement : Query.Rendered → Statement)
    (read : RowReader α) (respond : List α → Response) : Handling Response := do
  let filter ← allow found
  return respond (← perform (stored (do fetchAll (statement (← checkQuery (query filter))) read)))

variable {α φ : Type} {found : Except ApiError φ} {query : φ → Query.Select} {statement : Query.Rendered → Statement}
  {read : RowReader α} {respond : List α → Response} {replies : Nat → Reply}

theorem listing_ok (filter : φ) : listing (.ok filter) query statement read respond =
    (do return respond (← perform (stored (do fetchAll (statement (← checkQuery (query filter))) read)))) := rfl

theorem checked_of_render {q : Query.Select} {rendered : Query.Rendered} (renders : q.render = .ok rendered) :
    (do fetchAll (statement (← checkQuery q)) read) = fetchAll (statement rendered) read := by
  unfold checkQuery
  rw [renders]
  rfl

theorem sends_of_render {filter : φ} {rendered : Query.Rendered} (renders : (query filter).render = .ok rendered) :
    ((listing (.ok filter) query statement read respond).run.against replies).1 =
      [(.statement (statement rendered), replies 0)] := by
  rw [listing_ok, checked_of_render renders]
  obtain ⟨result, fetched⟩ := against_fetchAll (statement rendered) read replies
  have performed : ∃ told, (perform (stored (fetchAll (statement rendered) read))).run.against replies =
      ([(.statement (statement rendered), replies 0)], told) := by
    refine ⟨(result.mapError ServiceError.ofStore).mapError Failure.ofService, ?_⟩
    rw [perform, against_mapError, stored, against_mapError, fetched]
  obtain ⟨told, performed⟩ := performed
  cases told with
  | error e => rw [against_bind_error (congrArg Prod.snd performed), performed]
  | ok items =>
    rw [against_bind_ok (congrArg Prod.snd performed), performed, against_pure]
    rfl

/-- The work on a list: what is not fit is refused, what does not render fails, and what renders is sent. -/
theorem serves_listing : Serves (found.map query) statement replies
    ((listing found query statement read respond).run.against replies) := by
  cases found with
  | error e =>
    refine ⟨?_, nofun, nofun⟩
    rintro _ ⟨⟩
    rfl
  | ok filter =>
    refine ⟨nofun, ?_, ?_⟩
    · rintro _ why ⟨⟩ renders
      rw [listing_ok]
      unfold checkQuery
      rw [renders]
      rfl
    · rintro _ rendered ⟨⟩ renders
      exact sends_of_render renders

theorem listAssets_eq (app : App) (r : Request) : listAssets app r =
    listing (assetFilter r.params) (fun filter => Assets.listQuery filter (app.page r.params)) .listAssets
      AssetSummary.ofRow (fun items => .success (jsonList AssetSummary.toJson items)) := rfl

theorem listUsers_eq (app : App) (r : Request) : listUsers app r =
    listing (userFilter r.params) (fun filter => Users.listQuery filter (app.page r.params)) .listUsers
      UserSummary.ofRow (fun items => .success (jsonList UserSummary.toJson items)) := rfl

/-- Both lists are worked on in the same way. -/
theorem Listing.serves (app : App) (r : Request) (replies : Nat → Reply) (l : Listing) :
    Serves (l.query? r.params (app.page r.params)) l.statement replies ((l.handler app r).run.against replies) := by
  cases l with
  | assets =>
    rw [query?, statement, handler, listAssets_eq]
    exact serves_listing
  | users =>
    rw [query?, statement, handler, listUsers_eq]
    exact serves_listing

namespace App
variable {app : App} {r : Request} {l : Listing}

/-- The answer that the outcome of a request's work becomes. -/
def told (app : App) (r : Request) : Except Failure Response → Option Response
  | .ok response => some (app.finish r response)
  | .error e => e.toResponse?.map (app.finish r)

theorem Asks.route (asks : app.Asks r l) : Route.ofPath? r.path = some (.guarded l.route) := by
  rw [asks.path]
  cases l <;> decide

theorem Asks.served (asks : app.Asks r l) : (Route.guarded l.route).methods.contains r.method = true := by
  rw [asks.method]
  cases l <;> decide

theorem Asks.handle_eq (asks : app.Asks r l) : handle app r (.guarded l.route) = l.handler app r := by
  obtain ⟨claims, bears, allowed⟩ := asks.bearer
  have permitted : claims.role ∈ l.route.roles := by cases l <;> exact allowed
  have method : servedMethod r.method = "GET" := by rw [asks.method]; decide
  rw [handle_admitted (letIn_of_bears bears permitted), if_pos asks.served]
  cases l with
  | assets =>
    show (if servedMethod r.method = "GET" then listAssets app r else _) = _
    rw [if_pos method]
    rfl
  | users =>
    show (if servedMethod r.method = "GET" then listUsers app r else _) = _
    rw [if_pos method]
    rfl

theorem Asks.respond_eq (asks : app.Asks r l) : app.respond r = (do
    match ← (l.handler app r).run with
    | .ok response => pure (some response)
    | .error e => pure e.toResponse?) := by
  have asked : app.isPreflight r = false := by
    unfold isPreflight
    rw [asks.method]
    exact Bool.and_false _
  have methods : tellMethods r (.guarded l.route) = id := funext fun response => if_pos asks.served
  unfold respond
  rw [asks.route]
  dsimp only
  rw [asked, if_neg Bool.false_ne_true, asks.handle_eq, methods]
  refine congrArg ((l.handler app r).run >>= ·) (funext fun result => ?_)
  cases result with
  | ok response => rfl
  | error e => exact congrArg pure Option.map_id_apply

/-- A list is asked for and told by the work of its route alone. -/
theorem Asks.against_answer (asks : app.Asks r l) (replies : Nat → Reply) : (app.answer r).against replies =
    (((l.handler app r).run.against replies).1, app.told r ((l.handler app r).run.against replies).2) := by
  unfold answer
  rw [asks.respond_eq, Dialogue.against_bind, Dialogue.against_bind]
  cases ((l.handler app r).run.against replies).2 with
  | ok response => exact Prod.ext (by simp [pure, Dialogue.against]) rfl
  | error e => exact Prod.ext (by simp [pure, Dialogue.against]) rfl

theorem status_finish (response : Response) : (app.finish r response).status = response.status := by
  unfold finish
  split <;> split <;> rfl

theorem body_finish (asks : app.Asks r l) (response : Response) : (app.finish r response).body = response.body := by
  have whole : r.method ≠ "HEAD" := by
    rw [asks.method]
    decide
  unfold finish
  rw [if_neg whole]
  split <;> rfl

/-- A label that is not known costs the store nothing. -/
theorem Asks.refused (asks : app.Asks r l) (refused : ¬∀ f ∈ l.facets, f.Admits r.params) (replies : Nat → Reply) :
    ((app.answer r).against replies).1 = [] ∧ ((app.answer r).against replies).2.map (·.status) = some 400 := by
  have bad : Bad (l.query? r.params (app.page r.params)) := Listing.query_refused refused
  obtain ⟨message, bad⟩ := bad
  rw [asks.against_answer, (Listing.serves app r replies l).refused _ bad]
  refine ⟨rfl, ?_⟩
  show some (app.finish r (ApiError.toResponse ⟨.badRequest, message⟩)).status = some 400
  rw [status_finish]
  rfl

/-- A page without rows costs the store nothing either. -/
theorem Asks.narrow (asks : app.Asks r l) (admitted : ∀ f ∈ l.facets, f.Admits r.params)
    (narrow : (app.page r.params).limit.toInt < 1) (replies : Nat → Reply) :
    (app.answer r).against replies = ([], some (app.finish r queryFault.toResponse)) := by
  obtain ⟨css, asked, -⟩ := Listing.query_admitted admitted
  rw [asks.against_answer, (Listing.serves app r replies l).unrendered _ _ asked (Listing.renders_narrow narrow _)]
  rfl

/-- Known labels and a page with rows: one statement is sent, with a clause and an argument for each facet given. -/
theorem Asks.sends (asks : app.Asks r l) (admitted : ∀ f ∈ l.facets, f.Admits r.params)
    (rows : 1 ≤ (app.page r.params).limit.toInt) :
    ∃ q : Statement, (∀ replies, ((app.answer r).against replies).1 = [(.statement q, replies 0)]) ∧
      q.text = l.text (l.facets.filter (Facet.isGiven r.params)) ∧
      q.args = l.facets.filterMap (Facet.argument? r.params) ++
        [.integer (app.page r.params).limit.toInt, .integer (app.page r.params).offset.toInt] := by
  obtain ⟨css, asked, made⟩ := Listing.query_admitted admitted
  obtain ⟨rendered, renders, text, arguments⟩ := Listing.rendered_admitted made rows (begins_page rows)
  refine ⟨l.statement rendered, fun replies => ?_, ?_, ?_⟩
  · rw [asks.against_answer]
    exact (Listing.serves app r replies l).sends _ _ asked renders
  · rw [← text]
    cases l <;> rfl
  · rw [← arguments]
    cases l <;> rfl

/-- The text of whatever is sent is told by the facets that are given. -/
theorem Asks.text_of_sent (asks : app.Asks r l) {replies : Nat → Reply} {q : Statement} {reply : Reply}
    (sent : (.statement q, reply) ∈ ((app.answer r).against replies).1) :
    q.text = l.text (l.facets.filter (Facet.isGiven r.params)) := by
  by_cases admitted : ∀ f ∈ l.facets, f.Admits r.params
  · by_cases rows : 1 ≤ (app.page r.params).limit.toInt
    · obtain ⟨q', sends, text, -⟩ := asks.sends admitted rows
      rw [sends, List.mem_singleton] at sent
      cases sent
      exact text
    · rw [asks.narrow admitted (by omega)] at sent
      cases sent
  · rw [(asks.refused admitted replies).1] at sent
    cases sent

/-- Where a label is not known, the answer is 400 and nothing is sent. Otherwise one statement is sent for a page that
has rows: it has a clause and an argument for each facet that is given, in the order of the facets, and the arguments of
the window at the end. Nothing that is given changes the text of what is sent. -/
theorem lists_bind_facets (asks : app.Asks r l) :
    ((∃ f ∈ l.facets, ¬f.Admits r.params) → ∀ replies,
      ((app.answer r).against replies).1 = [] ∧ ((app.answer r).against replies).2.map (·.status) = some 400) ∧
    ((∀ f ∈ l.facets, f.Admits r.params) → 1 ≤ (app.page r.params).limit.toInt →
      ∃ q : Statement, (∀ replies, ((app.answer r).against replies).1 = [(.statement q, replies 0)]) ∧
        q.text = l.text (l.facets.filter (Facet.isGiven r.params)) ∧
        q.args = l.facets.filterMap (Facet.argument? r.params) ++
          [.integer (app.page r.params).limit.toInt, .integer (app.page r.params).offset.toInt]) ∧
    (∀ (app' : App) (r' : Request), app'.Asks r' l →
      (∀ f ∈ l.facets, f.isGiven r'.params = f.isGiven r.params) → ∀ replies replies' q q' reply reply',
        (.statement q, reply) ∈ ((app.answer r).against replies).1 →
        (.statement q', reply') ∈ ((app'.answer r').against replies').1 → q'.text = q.text) := by
  refine ⟨fun unknown => asks.refused (by simpa using unknown), asks.sends, ?_⟩
  intro app' r' asks' alike replies replies' q q' reply reply' sent sent'
  rw [asks.text_of_sent sent, asks'.text_of_sent sent', List.filter_congr alike]

end App

/-- Something with a percent sign is looked for among what is in use. -/
def searchRequest : Request :=
  .carrying "GET" "/api/assets?search=+5%25&status=assigned&owned_by=+" (closedApp.desk.issuer.sign adminClaims.toJson)

/-- The search is an administrator's. -/
theorem searchRequest_asks : closedApp.Asks searchRequest .assets := by
  have bears : closedApp.Bears searchRequest adminClaims := bears_of_sign _ _ rfl (by decide) (by decide)
  exact ⟨rfl, by decide, adminClaims, bears, by decide⟩

/-- The percent sign is escaped in the pattern, and the blank owner counts as not given. -/
theorem search_bound : closedApp.Asks searchRequest .assets ∧ ∃ q : Statement,
    (∀ replies, ((closedApp.answer searchRequest).against replies).1 = [(.statement q, replies 0)]) ∧
      q.args = [.text "%5\\%%", .text "assigned", .integer 20, .integer 0] := by
  obtain ⟨-, sends, -⟩ := App.lists_bind_facets searchRequest_asks
  have admitted : ∀ f ∈ Listing.assets.facets, f.Admits searchRequest.params := by decide +kernel
  obtain ⟨q, sent, -, arguments⟩ := sends admitted (by decide +kernel)
  refine ⟨searchRequest_asks, q, sent, ?_⟩
  rw [arguments]
  decide +kernel

end AssetRegistry.Web

import AssetRegistry.Proofs.Listings

namespace AssetRegistry.Web

open Store Query

/-- The statement ends in a window of so many rows, after so many others: these are its last two arguments. -/
def Shows (q : Statement) (limit offset : Int) : Prop :=
  ∃ front bound, q.text = front ++ " LIMIT " ++ placeholder (bound.length + 1) ++ " OFFSET " ++
      placeholder (bound.length + 2) ∧ q.args = bound ++ [.integer limit, .integer offset]

namespace App
variable {app : App} {r : Request} {l : Listing} {ps : Params}

/-- Known labels and at least one row: one statement is sent, and it shows the page. -/
theorem Asks.shows (asks : app.Asks r l) (admitted : ∀ f ∈ l.facets, f.Admits r.params)
    (rows : 1 ≤ (app.pageSize r.params).toInt) :
    ∃ q : Statement, (∀ replies, ((app.answer r).against replies).1 = [(.statement q, replies 0)]) ∧
      Shows q (app.pageSize r.params).toInt (min (app.rowsBefore r.params) (2 ^ 63 - 1)) := by
  obtain ⟨q, sends, text, arguments⟩ := asks.sends admitted (by rw [limit_page]; exact rows)
  refine ⟨q, sends, l.front (Facet.clauses 0 (l.facets.filter (Facet.isGiven r.params))),
    l.facets.filterMap (Facet.argument? r.params), ?_, ?_⟩
  · have spaced : " LIMIT " = " " ++ "LIMIT " := by decide
    rw [text, Facet.length_arguments, spaced]
    simp only [Listing.text, Listing.windowText, String.append_assoc]
  · rw [arguments, limit_page, offset_page_of_rows rows]

/-- A page without rows costs the store nothing, and its client learns only that something went wrong. -/
theorem Asks.shows_nothing (asks : app.Asks r l) (narrow : (app.pageSize r.params).toInt < 1) (replies : Nat → Reply) :
    ((app.answer r).against replies).1 = [] ∧
      ((∀ f ∈ l.facets, f.Admits r.params) → ∃ response, ((app.answer r).against replies).2 = some response ∧
        response.status = 500 ∧ response.body = queryFault.toResponse.body) := by
  rw [← limit_page] at narrow
  refine ⟨?_, fun admitted => ?_⟩
  · by_cases admitted : ∀ f ∈ l.facets, f.Admits r.params
    · rw [asks.narrow admitted narrow]
    · exact (asks.refused admitted replies).1
  · rw [asks.narrow admitted narrow]
    refine ⟨app.finish r queryFault.toResponse, rfl, ?_, body_finish asks _⟩
    rw [status_finish]
    rfl

/-- As long as the page's beginning is a number of 64 bits, it is where the pages before it end. -/
theorem offset_page_of_page (rows : 1 ≤ (app.pageSize ps).toInt) (first : 1 ≤ ps.pageNumber.toInt)
    (inside : app.rowsBefore ps ≤ 2 ^ 63 - 1) :
    (app.page ps).offset.toInt = (ps.pageNumber.toInt - 1) * (app.page ps).limit.toInt := by
  rw [offset_page_of_rows rows, min_eq_left inside, limit_page, rowsBefore, max_eq_left first]

/-- Different pages of one size have no row in common, and the next page begins where a page ends. -/
theorem pages_apart {other : App} {ps' : Params} (rows : 1 ≤ (app.pageSize ps).toInt)
    (size : other.pageSize ps' = app.pageSize ps) (first : 1 ≤ ps.pageNumber.toInt) (first' : 1 ≤ ps'.pageNumber.toInt)
    (inside : app.rowsBefore ps ≤ 2 ^ 63 - 1) (inside' : other.rowsBefore ps' ≤ 2 ^ 63 - 1) :
    (ps'.pageNumber ≠ ps.pageNumber → ∀ row, ¬((app.page ps).Covers row ∧ (other.page ps').Covers row)) ∧
      (ps'.pageNumber.toInt = ps.pageNumber.toInt + 1 →
        (other.page ps').offset.toInt = (app.page ps).offset.toInt + (app.page ps).limit.toInt) := by
  have same : (app.page ps).limit = (other.page ps').limit := by rw [limit_page, limit_page, size]
  have wide : 1 ≤ (app.page ps).limit.toInt := by
    rw [limit_page]
    exact rows
  have begins := offset_page_of_page rows first inside
  have begins' := offset_page_of_page (by rw [size]; exact rows) first' inside'
  refine ⟨fun different => ?_, fun next => ?_⟩
  · have apart : ps.pageNumber.toInt ≠ ps'.pageNumber.toInt :=
      fun equal => different (Int64.toInt_inj.1 equal.symm)
    exact Page.not_covers_both same wide begins begins' apart
  · rw [begins, begins', next, ← same, Int.add_sub_cancel, Int.sub_mul, Int.one_mul, Int.sub_add_cancel]

/-- A page that has rows is asked for with its size and the rows before it, or the greatest number of 64 bits if they
are more; nothing on the way to these numbers leaves 64 bits. A page without rows is not asked for, and its client
learns no more than that something went wrong. As long as no number is cut off, different pages of one size have no row
in common, and there is none between a page and the next. -/
theorem windows_exact (asks : app.Asks r l) :
    (max r.params.pageNumber 1 - 1).toInt = max r.params.pageNumber.toInt 1 - 1 ∧
    (1 ≤ (app.pageSize r.params).toInt → (∀ f ∈ l.facets, f.Admits r.params) →
      ∃ q : Statement, (∀ replies, ((app.answer r).against replies).1 = [(.statement q, replies 0)]) ∧
        Shows q (app.pageSize r.params).toInt (min (app.rowsBefore r.params) (2 ^ 63 - 1))) ∧
    ((app.pageSize r.params).toInt < 1 → ∀ replies, ((app.answer r).against replies).1 = [] ∧
      ((∀ f ∈ l.facets, f.Admits r.params) → ∃ response, ((app.answer r).against replies).2 = some response ∧
        response.status = 500 ∧ response.body = queryFault.toResponse.body)) ∧
    ∀ (other : App) (ps : Params), 1 ≤ (app.pageSize r.params).toInt → other.pageSize ps = app.pageSize r.params →
      1 ≤ r.params.pageNumber.toInt → 1 ≤ ps.pageNumber.toInt →
      app.rowsBefore r.params ≤ 2 ^ 63 - 1 → other.rowsBefore ps ≤ 2 ^ 63 - 1 →
      (ps.pageNumber ≠ r.params.pageNumber →
        ∀ row, ¬((app.page r.params).Covers row ∧ (other.page ps).Covers row)) ∧
      (ps.pageNumber.toInt = r.params.pageNumber.toInt + 1 →
        (other.page ps).offset.toInt = (app.page r.params).offset.toInt + (app.page r.params).limit.toInt) := by
  refine ⟨toInt_max_sub _, fun rows admitted => asks.shows admitted rows, fun narrow => asks.shows_nothing narrow, ?_⟩
  intro other ps rows size first first' inside inside'
  exact pages_apart rows size first first' inside inside'

end App

/-- The third page of forty assets each. -/
def thirdPage : Request :=
  .carrying "GET" "/api/assets?page=+3&limit=40&limit=7" (closedApp.desk.issuer.sign adminClaims.toJson)

/-- Its rows come after eighty others, and before those of the page after it. -/
theorem thirdPage_shown : closedApp.Asks thirdPage .assets ∧
    (∃ q : Statement, (∀ replies, ((closedApp.answer thirdPage).against replies).1 = [(.statement q, replies 0)]) ∧
      Shows q 40 80) ∧
    (∀ row, ¬((closedApp.page thirdPage.params).Covers row ∧
      (closedApp.page [("limit", "40"), ("page", "4")]).Covers row)) ∧
    (closedApp.page [("limit", "40"), ("page", "4")]).offset.toInt =
      (closedApp.page thirdPage.params).offset.toInt + (closedApp.page thirdPage.params).limit.toInt := by
  have bears : closedApp.Bears thirdPage adminClaims := bears_of_sign _ _ rfl (by decide) (by decide)
  have asks : closedApp.Asks thirdPage .assets := ⟨rfl, by decide, adminClaims, bears, by decide⟩
  obtain ⟨-, shows', -, apart⟩ := App.windows_exact asks
  have size : (closedApp.pageSize thirdPage.params).toInt = 40 := by decide +kernel
  have before : closedApp.rowsBefore thirdPage.params = 80 := by decide +kernel
  have page : thirdPage.params.pageNumber = 3 := by decide +kernel
  have admitted : ∀ f ∈ Listing.assets.facets, f.Admits thirdPage.params := by decide +kernel
  obtain ⟨q, sends, window⟩ := shows' (by rw [size]; decide) admitted
  rw [size, before] at window
  obtain ⟨disjoint, adjacent⟩ := apart closedApp [("limit", "40"), ("page", "4")] (by rw [size]; decide)
    (by decide +kernel) (by rw [page]; decide) (by decide +kernel) (by rw [before]; decide) (by decide +kernel)
  exact ⟨asks, ⟨q, sends, window⟩, disjoint (by decide +kernel), adjacent (by decide +kernel)⟩

end AssetRegistry.Web

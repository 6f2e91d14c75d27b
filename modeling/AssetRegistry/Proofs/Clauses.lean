import AssetRegistry.Proofs.Ensures
import AssetRegistry.Query.Condition
import Mathlib.Data.List.Forall2
import Mathlib.Data.List.Infix

namespace AssetRegistry.Query

/-- How often the mark stands in a text. -/
def marks (cs : List Char) : Nat := cs.tails.countP mark.isPrefixOf

theorem marks_cons (c : Char) (cs : List Char) :
    marks (c :: cs) = marks cs + if mark.isPrefixOf (c :: cs) then 1 else 0 := by
  unfold marks
  rw [List.tails_cons, List.countP_cons]

theorem mark_isPrefixOf (c d : Char) (rest : List Char) :
    mark.isPrefixOf (c :: d :: rest) = true ↔ [c, d] = mark := by
  rw [List.isPrefixOf_iff_prefix, List.prefix_iff_eq_take]
  exact eq_comm

theorem length_templatePieces (cs : List Char) : (templatePieces cs).length = marks cs + 1 := by
  fun_induction templatePieces cs with
  | case1 => rfl
  | case2 c =>
    have short : mark.isPrefixOf [c] = false := Bool.and_false _
    rw [marks_cons, short]
    rfl
  | case3 c d rest marked ih =>
    -- The second brace begins no mark, so the rest after both braces has the remaining ones.
    have second : mark.isPrefixOf (d :: rest) = false := by
      obtain ⟨-, rfl⟩ : c = Char.ofNat 0x7B ∧ d = Char.ofNat 0x7D := by
        simpa only [mark, List.cons.injEq, and_true] using marked
      rfl
    rw [List.length_cons, ih, marks_cons, marks_cons, if_pos ((mark_isPrefixOf c d rest).2 marked), second]
    rfl
  | case4 c d rest unmarked none ih => cases ih ▸ congrArg List.length none
  | case5 c d rest unmarked piece pieces split ih =>
    rw [split] at ih
    rw [marks_cons, if_neg (mt (mark_isPrefixOf c d rest).1 unmarked)]
    exact ih

namespace Condition

/-- A template in which the mark does not stand exactly once. -/
def isSpoiled : Condition → Bool
  | .template sql _ => marks sql.toList != 1
  | _ => false

/-- The condition has no argument. -/
def isRaw : Condition → Bool
  | .raw _ => true
  | _ => false

/-- Only the bound values tell the conditions apart. -/
inductive Alike : Condition → Condition → Prop
  | eq {column : String} {value other : Param} : Alike (.eq column value) (.eq column other)
  | search {columns : List String} {term other : String} : Alike (.search columns term) (.search columns other)
  | anyOf {column : String} {values others : List String} : Alike (.anyOf column values) (.anyOf column others)
  | template {sql : String} {value other : Param} : Alike (.template sql value) (.template sql other)
  | raw {sql : String} : Alike (.raw sql) (.raw sql)

variable {c d : Condition} {cs ds : List Condition} {start : Nat} {slot : String} {why : Fault}

/-- Only a template fails, and exactly if it does not have one gap. -/
theorem clause_error_iff : c.clause slot = .error why ↔
    ∃ sql value, c = .template sql value ∧ marks sql.toList ≠ 1 ∧ why = .invalidTemplate sql := by
  cases c with
  | template sql value =>
    have count := length_templatePieces sql.toList
    rw [clause]
    split
    next before after pieces =>
      rw [pieces] at count
      constructor
      · rintro ⟨⟩
      · rintro ⟨_, _, ⟨⟩, spoiled, -⟩
        exact absurd (Nat.succ.inj count).symm spoiled
    next other =>
      have spoiled : marks sql.toList ≠ 1 := by
        intro once
        rw [once] at count
        obtain ⟨before, after, pieces⟩ := List.length_eq_two.1 count
        exact other before after pieces
      constructor
      · rintro ⟨⟩
        exact ⟨sql, value, rfl, spoiled, rfl⟩
      · rintro ⟨_, _, ⟨⟩, -, rfl⟩
        rfl
  | _ =>
    constructor
    · rintro ⟨⟩
    · rintro ⟨_, _, ⟨⟩, -⟩

theorem clause_ok_of_sound (sound : c.isSpoiled = false) (slot : String) : ∃ text, c.clause slot = .ok text := by
  cases result : c.clause slot with
  | ok text => exact ⟨text, rfl⟩
  | error why =>
    obtain ⟨sql, value, rfl, spoiled, -⟩ := clause_error_iff.1 result
    exact absurd (by simpa [isSpoiled] using sound) spoiled

theorem clause_error_of_spoiled (spoiled : c.isSpoiled = true) (slot : String) :
    ∃ sql value, c = .template sql value ∧ c.clause slot = .error (.invalidTemplate sql) := by
  cases c with
  | template sql value =>
    exact ⟨sql, value, rfl, clause_error_iff.2 ⟨sql, value, rfl, by simpa [isSpoiled] using spoiled, rfl⟩⟩
  | _ => cases spoiled

theorem Alike.clause_eq (alike : Alike c d) (slot : String) : c.clause slot = d.clause slot := by
  cases alike <;> rfl

theorem Alike.length_param? (alike : Alike c d) : c.param?.toList.length = d.param?.toList.length := by
  cases alike <;> rfl

/-- What conditions bind does not depend on the number of earlier arguments. -/
theorem params_of_clauses {texts : List String} {params : List Param} (made : clauses start cs = .ok (texts, params)) :
    texts.length = cs.length ∧ params = cs.filterMap param? := by
  induction cs generalizing start texts params with
  | nil =>
    obtain ⟨rfl, rfl⟩ := Prod.mk.inj (Except.ok.inj made)
    exact ⟨rfl, rfl⟩
  | cons c cs ih =>
    obtain ⟨text, -, made⟩ := ok_of_bind made
    obtain ⟨⟨laterTexts, laterParams⟩, rest, made⟩ := ok_of_bind made
    obtain ⟨rfl, rfl⟩ := Prod.mk.inj (Except.ok.inj made)
    obtain ⟨count, rfl⟩ := ih rest
    refine ⟨congrArg (· + 1) count, ?_⟩
    rw [List.filterMap_cons]
    cases c.param? <;> rfl

/-- What follows is numbered behind the arguments of what goes before. -/
theorem clauses_append (start : Nat) (cs ds : List Condition) :
    clauses start (cs ++ ds) = (do
      let (texts, params) ← clauses start cs
      let (more, others) ← clauses (start + (cs.filterMap param?).length) ds
      pure (texts ++ more, params ++ others)) := by
  induction cs generalizing start with
  | nil =>
    show clauses start ds = clauses start ds >>= fun found => pure ([] ++ found.1, [] ++ found.2)
    cases clauses start ds <;> rfl
  | cons c cs ih =>
    have shift : start + c.param?.toList.length + (cs.filterMap param?).length =
        start + ((c :: cs).filterMap param?).length := by
      rw [List.filterMap_cons, Nat.add_assoc]
      cases c.param? <;> simp [Nat.add_comm]
    rw [List.cons_append, clauses, clauses, ih, shift]
    cases c.clause (placeholder (start + 1)) with
    | error why => rfl
    | ok text =>
      cases clauses (start + c.param?.toList.length) cs with
      | error why => rfl
      | ok found =>
        cases clauses (start + ((c :: cs).filterMap param?).length) ds with
        | error why => rfl
        | ok later =>
          show Except.ok _ = Except.ok _
          rw [List.append_assoc]
          rfl

/-- Conditions have no text exactly if some template among them is spoiled, and the first such one is named. -/
theorem clauses_error_iff (start : Nat) : clauses start cs = .error why ↔
    ∃ sql value, cs.find? isSpoiled = some (.template sql value) ∧ why = .invalidTemplate sql := by
  induction cs generalizing start with
  | nil =>
    constructor
    · rintro ⟨⟩
    · rintro ⟨_, _, ⟨⟩, -⟩
  | cons c cs ih =>
    rw [clauses, List.find?_cons]
    cases spoiled : c.isSpoiled with
    | true =>
      obtain ⟨sql, value, rfl, fails⟩ := clause_error_of_spoiled spoiled (placeholder (start + 1))
      rw [fails]
      constructor
      · rintro ⟨⟩
        exact ⟨sql, value, rfl, rfl⟩
      · rintro ⟨_, _, ⟨⟩, rfl⟩
        rfl
    | false =>
      obtain ⟨text, made⟩ := clause_ok_of_sound spoiled (placeholder (start + 1))
      rw [made]
      refine Iff.trans ?_ (ih (start + c.param?.toList.length))
      show (clauses (start + c.param?.toList.length) cs >>= fun _ => _) = .error why ↔ _
      cases clauses (start + c.param?.toList.length) cs with
      | error other => exact Iff.rfl
      | ok found => exact ⟨nofun, nofun⟩

/-- Without a spoiled template every condition has its text, and all arguments are kept. -/
theorem clauses_ok_of_sound (sound : ∀ c ∈ cs, c.isSpoiled = false) (start : Nat) :
    ∃ texts, clauses start cs = .ok (texts, cs.filterMap param?) ∧ texts.length = cs.length := by
  cases result : clauses start cs with
  | error why =>
    obtain ⟨sql, value, found, -⟩ := (clauses_error_iff start).1 result
    exact absurd (List.find?_some found) (by simp [sound _ (List.mem_of_find?_eq_some found)])
  | ok made =>
    obtain ⟨count, params⟩ := params_of_clauses result
    exact ⟨made.1, by rw [← params], count⟩

/-- The texts alone, without the arguments. -/
theorem texts_cons (start : Nat) (c : Condition) (cs : List Condition) :
    (clauses start (c :: cs)).map (·.1) =
      c.clause (placeholder (start + 1)) >>= fun text =>
        ((clauses (start + c.param?.toList.length) cs).map (·.1)).map (text :: ·) := by
  rw [clauses]
  cases c.clause (placeholder (start + 1)) with
  | error why => rfl
  | ok text => cases clauses (start + c.param?.toList.length) cs <;> rfl

/-- Lists of conditions that differ only in values have the same texts. -/
theorem Alike.texts_eq (alike : List.Forall₂ Alike cs ds) (start : Nat) :
    (clauses start cs).map (·.1) = (clauses start ds).map (·.1) := by
  induction alike generalizing start with
  | nil => rfl
  | cons same _ ih => rw [texts_cons, texts_cons, same.clause_eq, same.length_param?, ih]

/-- The texts of conditions as one; the text of no condition is one that always holds. -/
def joined (texts : List String) : String :=
  if texts.isEmpty then "1=1" else String.intercalate " AND " texts

theorem render_eq (start : Nat) (cs : List Condition) :
    render start cs = (clauses start cs).map fun made => (joined made.1, made.2) := by
  unfold render
  cases clauses start cs <;> rfl

theorem render_error_iff : render start cs = .error why ↔ clauses start cs = .error why := by
  rw [render_eq]
  cases clauses start cs with
  | error other =>
    exact ⟨fun same => congrArg _ (Except.error.inj same), fun same => congrArg _ (Except.error.inj same)⟩
  | ok made => exact ⟨nofun, nofun⟩

theorem Alike.render_eq (alike : List.Forall₂ Alike cs ds) (start : Nat) :
    (render start cs).map (·.1) = (render start ds).map (·.1) := by
  have text (cs : List Condition) : (render start cs).map (·.1) = ((clauses start cs).map (·.1)).map joined := by
    rw [Condition.render_eq]
    cases clauses start cs <;> rfl
  rw [text, text, texts_eq alike]

/-- The body of two lists is that of both, unless one of them is empty. -/
theorem joined_append (texts more : List String) :
    joined (texts ++ more) =
      if texts.isEmpty then joined more else if more.isEmpty then joined texts
      else joined texts ++ " AND " ++ joined more := by
  cases texts with
  | nil => rfl
  | cons text texts =>
    cases more with
    | nil => rw [List.append_nil]; rfl
    | cons next more => exact String.intercalate_append_of_ne_nil (List.cons_ne_nil _ _) (List.cons_ne_nil _ _)

/-- No clause but a fixed text reads as the one that always holds. -/
theorem raw_of_clause {number : Nat} (made : c.clause (placeholder number) = .ok "1=1") : c = .raw "1=1" := by
  have apart {text : String} {x : Char} (made : Except.ok text = (Except.ok "1=1" : Except Fault String))
      (member : x ∈ text.toList) : x ∈ ['1', '=', '1'] := by
    obtain rfl := Except.ok.inj made
    simpa using member
  cases c with
  | eq column value => exact absurd (apart made (x := ' ') (by simp)) (by decide)
  | search columns term => exact absurd (apart made (x := '(') (by simp)) (by decide)
  | anyOf column values => exact absurd (apart made (x := ' ') (by simp)) (by decide)
  | template sql value =>
    rw [clause] at made
    split at made
    · exact absurd (apart made (x := '$') (by simp [placeholder])) (by decide)
    · cases made
  | raw sql => rw [Except.ok.inj made]

theorem joined_eq_tautology_iff {texts : List String} : joined texts = "1=1" ↔ texts = [] ∨ texts = ["1=1"] := by
  match texts with
  | [] => simp [joined]
  | [text] => simp [joined]
  | text :: next :: rest =>
    have blank : ' ' ∈ (joined (text :: next :: rest)).toList := by
      show ' ' ∈ (String.intercalate " AND " (text :: next :: rest)).toList
      rw [String.intercalate_cons_cons]
      simp
    constructor
    · intro same
      rw [same] at blank
      exact absurd blank (by decide)
    · rintro (⟨⟨⟩⟩ | ⟨⟨⟩⟩)

/-- No condition but the tautology in person is written as the tautology. -/
theorem tautology_iff {texts : List String} {params : List Param} (made : clauses start cs = .ok (texts, params)) :
    joined texts = "1=1" ↔ cs = [] ∨ cs = [.raw "1=1"] := by
  rw [joined_eq_tautology_iff]
  obtain ⟨count, -⟩ := params_of_clauses made
  constructor
  · rintro (rfl | rfl)
    · exact Or.inl (List.length_eq_zero_iff.1 count.symm)
    · obtain ⟨c, rfl⟩ := List.length_eq_one_iff.1 count.symm
      obtain ⟨text, clause, made⟩ := ok_of_bind made
      obtain ⟨same, -⟩ := Prod.mk.inj (Except.ok.inj made)
      rw [List.head_eq_of_cons_eq same] at clause
      exact Or.inr (by rw [raw_of_clause clause])
  · rintro (rfl | rfl)
    · exact Or.inl (List.length_eq_zero_iff.1 count)
    · obtain ⟨rfl, -⟩ := Prod.mk.inj (Except.ok.inj made)
      exact Or.inr rfl

theorem sound_of_marked (marked : ∀ sql value, .template sql value ∈ cs → marks sql.toList = 1) :
    ∀ c ∈ cs, c.isSpoiled = false := by
  intro c member
  cases c with
  | template sql value => simp [isSpoiled, marked sql value member]
  | _ => rfl

/-- A body fails exactly if some template in it does not have one gap. -/
theorem render_fails_iff (start : Nat) (cs : List Condition) : (∃ why, render start cs = .error why) ↔
    ∃ sql value, .template sql value ∈ cs ∧ marks sql.toList ≠ 1 := by
  constructor
  · rintro ⟨why, fails⟩
    obtain ⟨sql, value, found, -⟩ := (clauses_error_iff start).1 (render_error_iff.1 fails)
    exact ⟨sql, value, List.mem_of_find?_eq_some found, by simpa [isSpoiled] using List.find?_some found⟩
  · rintro ⟨sql, value, member, spoiled⟩
    cases result : render start cs with
    | error why => exact ⟨why, rfl⟩
    | ok made =>
      have among : (cs.find? isSpoiled).isSome := List.find?_isSome.2 ⟨_, member, by simpa [isSpoiled] using spoiled⟩
      obtain ⟨first, found⟩ := Option.isSome_iff_exists.1 among
      obtain ⟨sql, value, rfl, -⟩ := clause_error_of_spoiled (List.find?_some found) ""
      have fails := render_error_iff.2 ((clauses_error_iff start).2 ⟨sql, value, found, rfl⟩)
      rw [result] at fails
      cases fails

theorem length_params (cs : List Condition) : (cs.filterMap param?).length = cs.countP (!·.isRaw) := by
  induction cs with
  | nil => rfl
  | cons c cs ih =>
    rw [List.filterMap_cons, List.countP_cons, ← ih]
    cases c <;> rfl

/-- Conditions that follow one another have a text unless some template is spoiled, and then the first such one is told.
Their arguments are those of both lists, and their text is both texts with the later placeholders shifted. A text that
always holds is put in only where there is no condition at all, though a fixed text may read the same. Every condition
but a fixed text binds one argument, and conditions that differ only in bound values have the same text or the same
fault. -/
theorem render_compositional (cs ds : List Condition) (start : Nat) :
    ((∃ why, render start (cs ++ ds) = .error why) ↔
      ∃ sql value, .template sql value ∈ cs ++ ds ∧ marks sql.toList ≠ 1) ∧
    (∀ why, render start (cs ++ ds) = .error why →
      ∃ sql value, (cs ++ ds).find? isSpoiled = some (.template sql value) ∧ why = .invalidTemplate sql) ∧
    ((∀ sql value, .template sql value ∈ cs ++ ds → marks sql.toList = 1) →
      ∃ text more whole, render start cs = .ok (text, cs.filterMap param?) ∧
        render (start + (cs.filterMap param?).length) ds = .ok (more, ds.filterMap param?) ∧
        render start (cs ++ ds) = .ok (whole, cs.filterMap param? ++ ds.filterMap param?) ∧
        whole = (if cs.isEmpty then more else if ds.isEmpty then text else text ++ " AND " ++ more) ∧
        (cs ++ ds = [] → whole = "1=1") ∧ (whole = "1=1" → cs ++ ds = [] ∨ cs ++ ds = [.raw "1=1"])) ∧
    (cs.filterMap param?).length = cs.countP (!·.isRaw) ∧
    ∀ others, List.Forall₂ Alike cs others → (render start cs).map (·.1) = (render start others).map (·.1) := by
  refine ⟨render_fails_iff start (cs ++ ds), fun why fails => ?_, fun marked => ?_, length_params cs,
    fun others alike => Alike.render_eq alike start⟩
  · exact (clauses_error_iff start).1 (render_error_iff.1 fails)
  · have sound := sound_of_marked marked
    obtain ⟨texts, made, count⟩ := clauses_ok_of_sound (fun c member => sound c (List.mem_append_left ds member)) start
    obtain ⟨more, later, countMore⟩ := clauses_ok_of_sound (fun c member => sound c (List.mem_append_right cs member))
      (start + (cs.filterMap param?).length)
    have both : clauses start (cs ++ ds) = .ok (texts ++ more, cs.filterMap param? ++ ds.filterMap param?) := by
      rw [clauses_append, made, ok_bind]
      dsimp only
      rw [later]
      rfl
    have sameEmpty {texts : List String} {cs : List Condition} (count : texts.length = cs.length) :
        texts.isEmpty = cs.isEmpty := by
      rw [Bool.eq_iff_iff, List.isEmpty_iff_length_eq_zero, List.isEmpty_iff_length_eq_zero, count]
    refine ⟨joined texts, joined more, joined (texts ++ more), ?_, ?_, ?_, ?_,
      fun none => (tautology_iff both).2 (.inl none), (tautology_iff both).1⟩
    · rw [render_eq, made]
      rfl
    · rw [render_eq, later]
      rfl
    · rw [render_eq, both]
      rfl
    · rw [joined_append, sameEmpty count, sameEmpty countMore]

/-- Laptops that are in use and match a search. -/
def laptopsInUse : List Condition :=
  [.raw "a.archived_at IS NULL", .search ["b.name", "a.serial_no"] "50%_off", .eq "m.asset_type::text" (.text "laptop")]

/-- A condition on roles, as the list of users has it. -/
def staffRoles : List Condition :=
  [.template "EXISTS (SELECT 1 FROM user_roles r WHERE r.role::text = ANY(\x7b\x7d))" (.texts ["admin"])]

/-- The roles are numbered behind the two arguments before them. -/
theorem laptopsInUse_compositional :
    (∀ sql value, .template sql value ∈ laptopsInUse ++ staffRoles → marks sql.toList = 1) ∧
    ∃ text more, render 2 laptopsInUse = .ok (text, [.text (likePattern "50%_off"), .text "laptop"]) ∧
      render 4 staffRoles = .ok (more, [.texts ["admin"]]) ∧
      render 2 (laptopsInUse ++ staffRoles) =
        .ok (text ++ " AND " ++ more, [.text (likePattern "50%_off"), .text "laptop", .texts ["admin"]]) := by
  have marked : ∀ sql value, .template sql value ∈ laptopsInUse ++ staffRoles → marks sql.toList = 1 := by
    intro sql value member
    simp only [laptopsInUse, staffRoles, List.cons_append, List.nil_append, List.mem_cons, List.not_mem_nil, or_false,
      reduceCtorEq, false_or, template.injEq] at member
    rw [member.1]
    decide +kernel
  obtain ⟨-, -, parts, -⟩ := render_compositional laptopsInUse staffRoles 2
  obtain ⟨text, more, whole, first, second, both, rfl, -⟩ := parts marked
  exact ⟨marked, text, more, first, second, both⟩

end Condition
end AssetRegistry.Query

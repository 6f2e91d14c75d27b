import AssetRegistry.Proofs.Privilege

namespace AssetRegistry.Store

/-- The exchange can go this way: these messages are sent and answered, and this is the result. -/
def Exchange.Outcome {ε α : Type} (x : Exchange ε α) (events : List Event) (result : Except ε α) : Prop :=
  ∃ replies, x.run.against replies = (events, result)

/-- The reply brings no row. -/
def Reply.Rowless (reply : Reply) : Prop := reply = .rows [] ∨ ∃ count, reply = .affected count

theorem rowless_of_first? {α : Type} {read : RowReader α} {reply : Reply} (first : reply.first? read = .ok none) :
    reply.Rowless := by
  rcases reply with (_ | ⟨row, more⟩) | count | fault
  · exact Or.inl rfl
  · have mapped := ok_of_mapError first
    cases reads : read row with
    | error e => rw [reads] at mapped; cases mapped
    | ok a => rw [reads] at mapped; cases mapped
  · exact Or.inr ⟨count, rfl⟩
  · cases first

/-- The replies of a run are the first ones of the peer, in their order. -/
theorem Dialogue.reply_of_getElem? {α : Type} {d : Dialogue α} {replies : Nat → Reply} {i : Nat} {e : Event}
    (sent : (d.against replies).1[i]? = some e) : e.2 = replies i := by
  induction d generalizing replies i with
  | done a => cases sent
  | send m next ih =>
    cases i with
    | zero =>
      obtain rfl := Option.some.inj sent
      rfl
    | succ i =>
      have later : ((next (replies 0)).against fun i => replies (i + 1)).1[i]? = some e := sent
      exact @ih (replies 0) (fun i => replies (i + 1)) i later

/-- Something is obtained by looking it up, else by inserting it, else by looking it up again. It is what the last row
tells. -/
inductive Obtained {α : Type} (find insert : Statement) (read : RowReader α) (a : α) : List Event → Prop
  | found {row : Row} {more : List Row} : read row = .ok a →
      Obtained find insert read a [(.statement find, .rows (row :: more))]
  | inserted {absent : Reply} {row : Row} {more : List Row} : absent.Rowless → read row = .ok a →
      Obtained find insert read a [(.statement find, absent), (.statement insert, .rows (row :: more))]
  | foundAgain {absent refused : Reply} {row : Row} {more : List Row} : absent.Rowless → refused.Rowless →
      read row = .ok a →
      Obtained find insert read a
        [(.statement find, absent), (.statement insert, refused), (.statement find, .rows (row :: more))]

/-- Nothing else is sent than the two statements. -/
theorem Obtained.mem {α : Type} {find insert : Statement} {read : RowReader α} {a : α} {events : List Event}
    (obtained : Obtained find insert read a events) {e : Event} (member : e ∈ events) :
    e.1 = .statement find ∨ e.1 = .statement insert := by
  cases obtained with
  | found reads =>
    rw [List.mem_singleton] at member
    exact Or.inl (by rw [member])
  | inserted absent reads =>
    rw [List.mem_cons, List.mem_singleton] at member
    rcases member with rfl | rfl
    · exact Or.inl rfl
    · exact Or.inr rfl
  | foundAgain absent refused reads =>
    rw [List.mem_cons, List.mem_cons, List.mem_singleton] at member
    rcases member with rfl | rfl | rfl
    · exact Or.inl rfl
    · exact Or.inr rfl
    · exact Or.inl rfl

namespace Exchange
variable {ε ε' α β : Type} {events : List Event}

/-- A run against given replies is a way to go. -/
theorem outcome_against {x : Exchange ε α} {replies : Nat → Reply} {result : Except ε α}
    (ended : (x.run.against replies).2 = result) : x.Outcome (x.run.against replies).1 result :=
  ⟨replies, Prod.ext rfl ended⟩

/-- An exchange of two parts ends with the second part, or with an error of the first. -/
theorem outcome_bind {x : Exchange ε α} {f : α → Exchange ε β} {result : Except ε β}
    (ends : (x >>= f).Outcome events result) :
    (∃ a first rest, x.Outcome first (.ok a) ∧ (f a).Outcome rest result ∧ events = first ++ rest) ∨
      ∃ e, x.Outcome events (.error e) ∧ result = .error e := by
  obtain ⟨replies, runs⟩ := ends
  cases first : (x.run.against replies).2 with
  | error e =>
    rw [against_bind_error first] at runs
    obtain ⟨rfl, rfl⟩ := Prod.mk.inj runs
    exact Or.inr ⟨e, outcome_against first, rfl⟩
  | ok a =>
    rw [against_bind_ok first] at runs
    obtain ⟨sent, ended⟩ := Prod.mk.inj runs
    exact Or.inl ⟨a, _, _, outcome_against first, outcome_against ended, sent.symm⟩

theorem outcome_bind_ok {x : Exchange ε α} {f : α → Exchange ε β} {b : β} (ends : (x >>= f).Outcome events (.ok b)) :
    ∃ a first rest, x.Outcome first (.ok a) ∧ (f a).Outcome rest (.ok b) ∧ events = first ++ rest := by
  rcases outcome_bind ends with succeeds | ⟨e, -, fails⟩
  · exact succeeds
  · cases fails

theorem outcome_ofExcept {x result : Except ε α} (ends : (ofExcept x).Outcome events result) :
    events = [] ∧ x = result := by
  obtain ⟨replies, runs⟩ := ends
  obtain ⟨rfl, rfl⟩ := Prod.mk.inj runs
  exact ⟨rfl, rfl⟩

theorem outcome_pure {a : α} {result : Except ε α} (ends : (pure a : Exchange ε α).Outcome events result) :
    events = [] ∧ .ok a = result :=
  outcome_ofExcept (x := .ok a) ends

theorem outcome_throw {e : ε} {result : Except ε α} (ends : (throw e : Exchange ε α).Outcome events result) :
    events = [] ∧ .error e = result :=
  outcome_ofExcept (x := .error e) ends

theorem outcome_mapError {x : Exchange ε α} {f : ε → ε'} {result : Except ε' α}
    (ends : (x.mapError f).Outcome events result) : ∃ inner, x.Outcome events inner ∧ inner.mapError f = result := by
  obtain ⟨replies, runs⟩ := ends
  rw [against_mapError] at runs
  obtain ⟨rfl, rfl⟩ := Prod.mk.inj runs
  exact ⟨_, ⟨replies, rfl⟩, rfl⟩

theorem outcome_mapError_ok {x : Exchange ε α} {f : ε → ε'} {a : α} (ends : (x.mapError f).Outcome events (.ok a)) :
    x.Outcome events (.ok a) := by
  obtain ⟨inner, goes, same⟩ := outcome_mapError ends
  rwa [← ok_of_mapError same]

theorem outcome_single {q : Statement} {read : Reply → Except ε α} {result : Except ε α}
    (ends : (single q read).Outcome events result) : ∃ reply, events = [(.statement q, reply)] ∧ read reply = result := by
  obtain ⟨replies, runs⟩ := ends
  rw [against_single] at runs
  obtain ⟨rfl, rfl⟩ := Prod.mk.inj runs
  exact ⟨replies 0, rfl, rfl⟩

/-- A row that had to be there was. -/
theorem outcome_fetchOne_ok {q : Statement} {read : RowReader α} {a : α}
    (ends : (fetchOne q read).Outcome events (.ok a)) :
    ∃ row more, events = [(.statement q, .rows (row :: more))] ∧ read row = .ok a := by
  rw [fetchOne_eq_single] at ends
  obtain ⟨reply, rfl, first⟩ := outcome_single ends
  obtain ⟨row, more, rfl, reads⟩ := rows_of_first first
  exact ⟨row, more, rfl, reads⟩

theorem outcome_fetchOptional_ok {q : Statement} {read : RowReader α} {found : Option α}
    (ends : (fetchOptional q read).Outcome events (.ok found)) :
    ∃ reply, events = [(.statement q, reply)] ∧ reply.first? read = .ok found := by
  rw [fetchOptional_eq_single] at ends
  exact outcome_single ends

/-- Something that is looked up or inserted has been obtained in one of three ways. -/
theorem obtained {find insert : Statement} {read : RowReader α} {missing : StoreError} {a : α}
    (ends : (findOrInsert find insert read missing).Outcome events (.ok a)) : Obtained find insert read a events := by
  obtain ⟨found, _, rest, looked, ends, rfl⟩ := outcome_bind_ok ends
  obtain ⟨reply, rfl, told⟩ := outcome_fetchOptional_ok looked
  cases found with
  | some b =>
    obtain ⟨rfl, same⟩ := outcome_pure ends
    obtain rfl := Except.ok.inj same
    obtain ⟨row, more, rfl, reads⟩ := rows_of_first? told
    exact .found reads
  | none =>
    obtain ⟨inserted, _, rest, inserting, ends, rfl⟩ := outcome_bind_ok ends
    obtain ⟨reply', rfl, told'⟩ := outcome_fetchOptional_ok inserting
    have absent := rowless_of_first? told
    cases inserted with
    | some b =>
      obtain ⟨rfl, same⟩ := outcome_pure ends
      obtain rfl := Except.ok.inj same
      obtain ⟨row, more, rfl, reads⟩ := rows_of_first? told'
      exact .inserted absent reads
    | none =>
      obtain ⟨again, _, rest, looking, ends, rfl⟩ := outcome_bind_ok ends
      obtain ⟨reply'', rfl, told''⟩ := outcome_fetchOptional_ok looking
      cases again with
      | none => cases (outcome_throw ends).2
      | some b =>
        obtain ⟨rfl, same⟩ := outcome_pure ends
        obtain rfl := Except.ok.inj same
        obtain ⟨row, more, rfl, reads⟩ := rows_of_first? told''
        exact .foundAgain absent (rowless_of_first? told') reads

/-- A transaction ends as it is settled. -/
theorem outcome_transaction {ofStore : StoreError → ε} {work : Exchange ε α} {result : Except ε α}
    (ends : (transaction ofStore work).Outcome events result) :
    ∃ settled, Settles work events settled ∧ settled.result ofStore = result := by
  obtain ⟨replies, runs⟩ := ends
  rw [against_transaction] at runs
  obtain ⟨rfl, rfl⟩ := Prod.mk.inj runs
  exact ⟨_, Dialogue.settles work replies, rfl⟩

/-- A transaction that succeeds is begun and committed around its work. -/
theorem outcome_transaction_ok {ofStore : StoreError → ε} {work : Exchange ε α} {a : α}
    (ends : (transaction ofStore work).Outcome events (.ok a)) :
    ∃ opened sent closed, opened.isFailed = false ∧ closed.isFailed = false ∧ work.Outcome sent (.ok a) ∧
      events = (.begin, opened) :: (sent ++ [(.commit, closed)]) := by
  obtain ⟨settled, settles, told⟩ := outcome_transaction ends
  cases settles with
  | notBegun fault undone => cases told
  | withdrawn undone begun fails => cases told
  | notCommitted fault undone begun succeeds => cases told
  | committed begun succeeds done =>
    obtain rfl := Except.ok.inj told
    exact ⟨_, _, _, begun, done, outcome_against succeeds, rfl⟩

/-- A transaction that fails has not been begun, has been withdrawn because its work failed, or has not been committed. It is
rolled back in each case. -/
theorem outcome_transaction_error {ofStore : StoreError → ε} {work : Exchange ε α} {e : ε}
    (ends : (transaction ofStore work).Outcome events (.error e)) :
    (∃ fault undone, e = ofStore (.ofFault fault) ∧ events = [(.begin, .failed fault), (.rollback, undone)]) ∨
      (∃ opened sent undone, opened.isFailed = false ∧ work.Outcome sent (.error e) ∧
        events = (.begin, opened) :: (sent ++ [(.rollback, undone)])) ∨
      ∃ opened sent a fault undone, opened.isFailed = false ∧ work.Outcome sent (.ok a) ∧ e = ofStore (.ofFault fault) ∧
        events = (.begin, opened) :: (sent ++ [(.commit, .failed fault), (.rollback, undone)]) := by
  obtain ⟨settled, settles, told⟩ := outcome_transaction ends
  cases settles with
  | notBegun fault undone =>
    obtain rfl := Except.error.inj told
    exact Or.inl ⟨fault, undone, rfl, rfl⟩
  | withdrawn undone begun fails =>
    obtain rfl := Except.error.inj told
    exact Or.inr (Or.inl ⟨_, _, undone, begun, outcome_against fails, rfl⟩)
  | notCommitted fault undone begun succeeds =>
    obtain rfl := Except.error.inj told
    exact Or.inr (Or.inr ⟨_, _, _, fault, undone, begun, outcome_against succeeds, rfl, rfl⟩)
  | committed begun succeeds done => cases told

end Exchange
end AssetRegistry.Store

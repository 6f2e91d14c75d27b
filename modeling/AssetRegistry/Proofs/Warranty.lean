import AssetRegistry.Proofs.Exclusive
import AssetRegistry.Proofs.Normalized
import AssetRegistry.Proofs.Upkeep

namespace AssetRegistry

/-- The two dates of a warranty. -/
inductive Edge where
  | start
  | finish
  deriving DecidableEq

namespace Edge

/-- The other end of a warranty. -/
def opposite : Edge → Edge
  | start => finish
  | finish => start

/-- The date of a stored row. -/
def ofNew (row : NewAsset) : Edge → Option Date
  | start => row.warrantyStart
  | finish => row.warrantyEnd

/-- The date that is told of an asset. -/
def ofAsset (asset : Asset) : Edge → Option Date
  | start => asset.warrantyStart
  | finish => asset.warrantyEnd

/-- The date that an update gives. -/
def ofPatch (patch : AssetPatch) : Edge → Option Date
  | start => patch.warrantyStart
  | finish => patch.warrantyEnd

end Edge

namespace AssetPatch

/-- An update gives one date only, and the second update gives the other one. -/
def Upset (p p' : AssetPatch) : Prop :=
  ∃ edge, (Edge.ofPatch p edge).isSome ∧ Edge.ofPatch p edge.opposite = none ∧ (Edge.ofPatch p' edge.opposite).isSome

/-- An update does not upset itself: it does not give the date that it leaves out. -/
theorem not_upset_self (p : AssetPatch) : ¬p.Upset p := by
  rintro ⟨edge, -, absent, given⟩
  simp [absent] at given

/-- An update that gives both dates, or none, is checked against no date that it leaves as it is. -/
theorem not_upset_of_whole {p p' : AssetPatch} (whole : p.warrantyStart.isSome = p.warrantyEnd.isSome) :
    ¬p.Upset p' := by
  rintro ⟨edge, given, absent, -⟩
  cases edge <;> simp_all [Edge.ofPatch, Edge.opposite]

end AssetPatch

open Store

namespace Service

/-- The calls update the same asset, and one of them gives the date that the other one is checked against. -/
def Mutation.Clashes : Mutation → Mutation → Prop
  | .updateAsset _ id req, .updateAsset _ id' req' =>
    id = id' ∧ (req.fields.Upset req'.fields ∨ req'.fields.Upset req.fields)
  | _, _ => False

namespace Mutation

theorem not_clashes_self (m : Mutation) : ¬m.Clashes m := by
  cases m with
  | updateAsset actor id req =>
    rintro ⟨-, upset | upset⟩ <;> exact req.fields.not_upset_self upset
  | _ => exact id

theorem Clashes.symm {m m' : Mutation} (clash : m.Clashes m') : m'.Clashes m := by
  cases m with
  | updateAsset actor id req =>
    cases m' with
    | updateAsset actor' id' req' => exact ⟨clash.1.symm, clash.2.symm⟩
    | _ => exact clash.elim
  | _ => exact clash.elim

end Mutation
end Service

open Service

/-- The warranty does not end before it begins. -/
def NewAsset.Ordered (row : NewAsset) : Prop := InOrder row.warrantyStart row.warrantyEnd

/-- No warranty ends before it begins. -/
def Store.Tables.WarrantiesOrdered (t : Tables) : Prop := ∀ id row, t.assets.lookup id = some row → row.data.Ordered

/-- How a row comes about that a call has written: it is new, or the dates which the call gives are put into the
committed row. -/
inductive Derived (committed : Table NewAsset) (id : Uuid) (row : NewAsset) : Mutation → Prop
  | inserted {actor : Actor} {req : CreateAsset} : id ∉ committed → Derived committed id row (.createAsset actor req)
  | patched {actor : Actor} {req : UpdateAsset} {old : Stored NewAsset} : committed.lookup id = some old →
      (∀ edge, Edge.ofNew row edge = (Edge.ofPatch req.fields edge <|> Edge.ofNew old.data edge)) →
      Derived committed id row (.updateAsset actor id req)

/-- The date that an update is checked against is still the one it was told. -/
def Recalled (committed : Table NewAsset) (id : Uuid) (existing : Asset) (fields : AssetPatch) : Prop :=
  ∃ old, committed.lookup id = some old ∧
    ∀ edge, (Edge.ofPatch fields edge).isSome → Edge.ofPatch fields edge.opposite = none →
      Edge.ofNew old.data edge.opposite = Edge.ofAsset existing edge.opposite

/-- What holds of a connection that carries out a call. -/
structure Busy (x : Session) (call : Mutation) (program : Dialogue Unit) (standing : List Event × Bool) : Prop where
  upkeep : InUpkeep call
  attends : program.Ensures (attendant call) standing fun _ now => now.2 = false
  inside : standing.2 = x.opened.isSome
  derived : ∀ t id row, x.opened = some t → t.written.assets.lookup id = some row →
    Derived x.committed.assets id row.data call ∧ row.data.Ordered
  recalled : ∀ actor id req existing, call = .updateAsset actor id req → Tells id existing standing.1 →
    Recalled x.committed.assets id existing req.fields

/-- Committed warranties are in order, each connection keeps what it is to keep, no two transactions have written the
same asset, and no two calls clash. -/
structure Store.Traffic.Sound (s : Traffic) (standing : Nat → List Event × Bool) : Prop where
  ordered : s.state.committed.WarrantiesOrdered
  idle : ∀ i, s.jobs i = none → s.state.opened i = none
  busy : ∀ i call program, s.jobs i = some { call, program } → Busy (s.state.session i) call program (standing i)
  apart : ∀ i j t t', j ≠ i → s.state.opened i = some t → s.state.opened j = some t' →
    ∀ id ∈ t.written.assets, id ∉ t'.written.assets
  calm : ∀ i j job job', s.jobs i = some job → s.jobs j = some job' → ¬job.call.Clashes job'.call

theorem NewAsset.Ordered.congr {row row' : NewAsset} (ordered : row.Ordered)
    (same : ∀ edge, Edge.ofNew row' edge = Edge.ofNew row edge) : row'.Ordered := by
  have start : row'.warrantyStart = row.warrantyStart := same .start
  have finish : row'.warrantyEnd = row.warrantyEnd := same .finish
  rwa [NewAsset.Ordered, start, finish]

theorem dates_of_checkUpdate {existing : Asset} {fields checked : AssetPatch}
    (checks : Assets.checkUpdate existing fields = .ok checked) (edge : Edge) :
    Edge.ofPatch checked edge = Edge.ofPatch fields edge := by
  unfold Assets.checkUpdate at checks
  obtain ⟨_, _, checks⟩ := ok_of_bind checks
  obtain ⟨_, _, checks⟩ := ok_of_bind checks
  obtain rfl := Except.ok.inj checks
  cases edge <;> rfl

/-- After an update a date is the given one, or else the one that was there. -/
theorem dates_patched {existing : Asset} {fields checked : AssetPatch}
    (checks : Assets.checkUpdate existing fields = .ok checked) (row : NewAsset) (edge : Edge) :
    Edge.ofNew (row.patched checked) edge = (Edge.ofPatch fields edge <|> Edge.ofNew row edge) := by
  rw [← dates_of_checkUpdate checks]
  cases edge <;> rfl

/-- With the date it was checked against still in place, an update leaves the dates in order. -/
theorem ordered_patched {existing : Asset} {fields checked : AssetPatch} {old : NewAsset} (ordered : old.Ordered)
    (checks : Assets.checkUpdate existing fields = .ok checked)
    (kept : ∀ edge, (Edge.ofPatch fields edge).isSome → Edge.ofPatch fields edge.opposite = none →
      Edge.ofNew old edge.opposite = Edge.ofAsset existing edge.opposite) : (old.patched checked).Ordered := by
  have start : checked.warrantyStart = fields.warrantyStart := dates_of_checkUpdate checks .start
  have finish : checked.warrantyEnd = fields.warrantyEnd := dates_of_checkUpdate checks .finish
  obtain ⟨-, passed⟩ := Assets.normal_of_checkUpdate checks
  rw [start, finish] at passed
  show InOrder (checked.warrantyStart <|> old.warrantyStart) (checked.warrantyEnd <|> old.warrantyEnd)
  rw [start, finish]
  -- Both dates are given, or the one that is not is the one that was checked, or none is.
  cases first : fields.warrantyStart with
  | some date =>
    cases last : fields.warrantyEnd with
    | some date' => simpa [first, last] using passed
    | none =>
      have same : old.warrantyEnd = existing.warrantyEnd := kept .start (by simp [Edge.ofPatch, first]) last
      simpa [first, last, same] using passed
  | none =>
    cases last : fields.warrantyEnd with
    | some date' =>
      have same : old.warrantyStart = existing.warrantyStart := kept .finish (by simp [Edge.ofPatch, last]) first
      simpa [first, last, same] using passed
    | none => exact ordered

theorem tells_append {id : Uuid} {existing : Asset} {past : List Event} {m : Message} {reply : Reply} :
    Tells id existing (past ++ [(m, reply)]) ↔ Tells id existing past ∨
      m = .statement (.findAsset id) ∧ ∃ row more, reply = .rows (row :: more) ∧ Asset.ofRow row = .ok existing := by
  simp only [Tells, List.mem_append, List.mem_singleton, Prod.mk.injEq]
  constructor
  · rintro ⟨row, more, told | ⟨rfl, rfl⟩, reads⟩
    · exact Or.inl ⟨row, more, told, reads⟩
    · exact Or.inr ⟨rfl, row, more, rfl, reads⟩
  · rintro (⟨row, more, told, reads⟩ | ⟨rfl, row, more, rfl, reads⟩)
    · exact ⟨row, more, Or.inl told, reads⟩
    · exact ⟨row, more, Or.inr ⟨rfl, rfl⟩, reads⟩

/-- What is told of an asset are the dates of its row. -/
theorem dates_of_reply {t : Tables} {new : Supply} {id : Uuid} {row : Row} {more : List Row} {existing : Asset}
    (answered : t.reply new (.findAsset id) = .rows (row :: more)) (reads : Asset.ofRow row = .ok existing) :
    ∃ old, t.assets.lookup id = some old ∧ ∀ edge, Edge.ofAsset existing edge = Edge.ofNew old.data edge := by
  have first : Reply.first? Asset.ofRow (t.answer new (.findAsset id)) = .ok (some existing) := by
    rw [show t.answer new (.findAsset id) = .rows (row :: more) from answered, Reply.first?, reads]
    rfl
  rw [Tables.first?_findAsset] at first
  obtain ⟨old, live, rfl⟩ := Option.map_eq_some_iff.1 (Except.ok.inj first)
  refine ⟨old, (Table.live?_eq_some.1 live).1, fun edge => ?_⟩
  cases edge <;> rfl

namespace Busy
variable {x : Session} {call : Mutation} {program : Dialogue Unit} {standing : List Event × Bool} {m : Message}
  {next : Reply → Dialogue Unit}

/-- An update sees the dates that it does not give as they are committed. -/
theorem beneath (busy : Busy x call program standing) {actor : Actor} {id : Uuid} {req : UpdateAsset}
    (updates : call = .updateAsset actor id req) {row : Stored NewAsset} (seen : x.view.assets.lookup id = some row) :
    ∃ old, x.committed.assets.lookup id = some old ∧
      ∀ edge, Edge.ofPatch req.fields edge = none → Edge.ofNew row.data edge = Edge.ofNew old.data edge := by
  cases isOpen : x.opened with
  | none =>
    rw [Session.view, isOpen] at seen
    exact ⟨row, seen, fun _ _ => rfl⟩
  | some t =>
    rw [Session.view, isOpen] at seen
    rcases Option.or_eq_some_iff.1 ((Table.lookup_union _ _ id).symm.trans seen) with own | ⟨-, committed⟩
    · have derived := (busy.derived t id row isOpen own).1
      rw [updates] at derived
      cases derived with
      | patched found dates =>
        refine ⟨_, found, fun edge absent => ?_⟩
        rw [dates edge, absent]
        rfl
    · exact ⟨row, committed, fun _ _ => rfl⟩

/-- After one more message, the date that an update is checked against is still the one it was told. -/
theorem remembers (busy : Busy x call program standing) {reply : Reply}
    (answered : ∀ q, m = .statement q → reply.isFailed = true ∨ ∃ new, reply = x.view.reply new q) {actor : Actor}
    {id : Uuid} {req : UpdateAsset} {existing : Asset} (updates : call = .updateAsset actor id req)
    (tells : Tells id existing (standing.1 ++ [(m, reply)])) : Recalled x.committed.assets id existing req.fields := by
  rcases tells_append.1 tells with before | ⟨rfl, row, more, rfl, reads⟩
  · exact busy.recalled actor id req existing updates before
  · rcases answered _ rfl with failed | ⟨new, told⟩
    · cases failed
    · obtain ⟨row', seen, dates⟩ := dates_of_reply told.symm reads
      obtain ⟨old, found, same⟩ := busy.beneath updates seen
      exact ⟨old, found, fun edge _ absent => (same edge.opposite absent).symm.trans (dates edge.opposite).symm⟩

/-- Where nothing is committed, it is enough to look at the rows that are written. -/
theorem goesOn (busy : Busy x call (.send m next) standing) {reply : Reply} {opened : Option Transaction}
    (answered : ∀ q, m = .statement q → reply.isFailed = true ∨ ∃ new, reply = x.view.reply new q)
    (inside : m.leavesOpen standing.2 reply = opened.isSome)
    (derived : ∀ t id row, opened = some t → t.written.assets.lookup id = some row →
      Derived x.committed.assets id row.data call ∧ row.data.Ordered) :
    Busy { committed := x.committed, opened } call (next reply)
      (standing.1 ++ [(m, reply)], m.leavesOpen standing.2 reply) where
  upkeep := busy.upkeep
  attends := busy.attends.2 reply _ ⟨rfl, rfl⟩
  inside := inside
  derived := derived
  recalled _ _ _ _ updates tells := busy.remembers answered updates tells

/-- A commit takes nothing from a call that does not clash with the one that commits. -/
theorem of_commit (busy : Busy x call program standing) {written : Tables} {other : Mutation}
    (derived : ∀ id row, written.assets.lookup id = some row → Derived x.committed.assets id row.data other)
    (calm : ¬call.Clashes other)
    (apart : ∀ t, x.opened = some t → ∀ id ∈ t.written.assets, id ∉ written.assets) :
    Busy { committed := written ∪ x.committed, opened := x.opened } call program standing where
  upkeep := busy.upkeep
  attends := busy.attends
  inside := busy.inside
  derived t id row isOpen found := by
    obtain ⟨comes, ordered⟩ := busy.derived t id row isOpen found
    have untouched := apart t isOpen id (AList.lookup_isSome.1 (by simp [found]))
    refine ⟨?_, ordered⟩
    cases comes with
    | inserted isNew => exact .inserted fun member => (AList.mem_union.1 member).elim untouched isNew
    | patched old dates =>
      refine .patched ?_ dates
      simpa [AList.lookup_eq_none.2 untouched] using old
  recalled actor id req existing updates tells := by
    obtain ⟨old, found, kept⟩ := busy.recalled actor id req existing updates tells
    cases writes : written.assets.lookup id with
    | none => exact ⟨old, by simpa [writes] using found, kept⟩
    | some row =>
      refine ⟨row, by simp [writes], fun edge given absent => ?_⟩
      rw [← kept edge given absent]
      have comes := derived id row writes
      rw [updates] at calm
      cases comes with
      | inserted isNew => exact absurd (AList.lookup_isSome.1 (by simp [found])) isNew
      | @patched _ req' _ found' dates =>
        obtain rfl := Option.some.inj (found'.symm.trans found)
        have untouched : Edge.ofPatch req'.fields edge.opposite = none := by
          by_contra touched
          exact calm ⟨rfl, Or.inl ⟨edge, given, absent, Option.ne_none_iff_isSome.1 touched⟩⟩
        rw [dates, untouched]
        rfl

/-- What a statement writes of assets: a new row, or the dates that are given put into the committed row. -/
theorem derived_effect (busy : Busy x call program standing) (ordered : x.committed.WarrantiesOrdered) {new : Supply}
    {q : Statement} (may : (Call.mutation call).MaySend standing.1 q)
    (fresh : ∀ asset, q = .insertAsset asset → new.assetId ∉ x.committed.assets) {id : Uuid} {row : Stored NewAsset}
    (found : (x.view.effect new q).assets.lookup id = some row) :
    Derived x.committed.assets id row.data call ∧ row.data.Ordered := by
  have upkeep := busy.upkeep
  generalize is : Call.mutation call = mutation at may
  cases may with
  | insertAsset modelId specsId checked =>
    obtain ⟨rfl, rfl⟩ : id = new.assetId ∧ _ = row := by simpa [Tables.effect, Tables.written] using found
    rw [Call.mutation.inj is]
    exact ⟨.inserted (fresh _ rfl), (Assets.normal_of_checkCreate checked).2.2.2⟩
  | @updateAsset actor id' req existing fields tells checked =>
    have updates := Call.mutation.inj is
    obtain ⟨rfl, seen, live, rfl⟩ := Table.lookup_patched_eq_some.1 found
    obtain ⟨old, isOld, same⟩ := busy.beneath updates (Table.live?_eq_some.1 live).1
    obtain ⟨old', isOld', kept⟩ := busy.recalled _ _ _ _ updates tells
    obtain rfl := Option.some.inj (isOld'.symm.trans isOld)
    have dates (edge : Edge) : Edge.ofNew (seen.data.patched fields) edge = Edge.ofNew (old'.data.patched fields) edge := by
      rw [dates_patched checked, dates_patched checked]
      cases given : Edge.ofPatch req.fields edge with
      | some date => rfl
      | none => exact same edge given
    rw [updates]
    refine ⟨.patched isOld fun edge => (dates edge).trans (dates_patched checked _ edge), ?_⟩
    exact (ordered_patched (ordered _ _ isOld) checked kept).congr dates
  | archiveAsset => rw [Call.mutation.inj is] at upkeep; exact upkeep.elim
  | _ => simp [Tables.effect, Tables.written] at found

theorem target (busy : Busy x call program standing) {new : Supply} {q : Statement}
    (may : (Call.mutation call).MaySend standing.1 q) {id : Uuid} (writes : id ∈ (x.view.effect new q).assets) :
    (∃ asset, q = .insertAsset asset ∧ id = new.assetId) ∨
      ∃ patch updatedBy, q = .updateAsset id patch updatedBy ∧ (x.view.assets.live? id).isSome := by
  have upkeep := busy.upkeep
  obtain ⟨row, found⟩ := Option.isSome_iff_exists.1 (AList.lookup_isSome.2 writes)
  generalize is : Call.mutation call = mutation at may
  cases may with
  | insertAsset modelId specsId checked => exact Or.inl ⟨_, rfl, Table.mem_singleton.1 writes⟩
  | updateAsset tells checked =>
    obtain ⟨rfl, seen, live, rfl⟩ := Table.lookup_patched_eq_some.1 found
    exact Or.inr ⟨_, _, rfl, by simp [live]⟩
  | archiveAsset => rw [Call.mutation.inj is] at upkeep; exact upkeep.elim
  | _ => simp [Tables.effect, Tables.written] at found

end Busy

namespace Store.Traffic.Sound
variable {s : Traffic} {standing : Nat → List Event × Bool} {i : Nat} {call : Mutation} {program : Dialogue Unit}
  {m : Message} {next : Reply → Dialogue Unit} {t : Transaction}

/-- Where nothing is committed, it is enough to look at the connection that changes. -/
theorem replace (sound : s.Sound standing) {opened : Option Transaction} {job : Option Job}
    {stands : List Event × Bool} (idle : job = none → opened = none)
    (busy : ∀ call program, job = some { call, program } →
      Busy { committed := s.state.committed, opened } call program stands)
    (apart : ∀ j t t', j ≠ i → opened = some t → s.state.opened j = some t' →
      ∀ id ∈ t.written.assets, id ∉ t'.written.assets)
    (calm : ∀ b, job = some b → ∀ j b', j ≠ i → s.jobs j = some b' → ¬b.call.Clashes b'.call) :
    (s.put i { committed := s.state.committed, opened } job).Sound (Function.update standing i stands) where
  ordered := sound.ordered
  idle j free := by
    rw [put_opened]
    rw [put_jobs] at free
    split at free
    · next here => rw [if_pos here, idle free]
    · next elsewhere => rw [if_neg elsewhere, sound.idle j free]
  busy j call program works := by
    rw [State.session, put_opened, Function.update_apply]
    rw [put_jobs] at works
    split at works
    · next here =>
      rw [if_pos here, if_pos here]
      exact busy call program works
    · next elsewhere =>
      rw [if_neg elsewhere, if_neg elsewhere]
      exact sound.busy j call program works
  apart j k t t' differ isOpen isOpen' := by
    rw [put_opened] at isOpen isOpen'
    split at isOpen
    · next here =>
      subst here
      exact apart k t t' differ isOpen (by simpa [differ] using isOpen')
    · next elsewhere =>
      split at isOpen'
      · next here =>
        subst here
        exact fun id member member' => apart j t' t elsewhere isOpen' isOpen id member' member
      · exact sound.apart j k t t' differ isOpen isOpen'
  calm j k b b' works works' clash := by
    rw [put_jobs] at works works'
    split at works
    · split at works'
      · obtain rfl := Option.some.inj (works.symm.trans works')
        exact b.call.not_clashes_self clash
      · next elsewhere => exact calm b works k b' elsewhere works' clash
    · next elsewhere =>
      split at works'
      · exact calm b' works' j b elsewhere works clash.symm
      · exact sound.calm j k b b' works works' clash

/-- A connection goes on with its call, and nothing is committed. -/
theorem goesOn (sound : s.Sound standing) (works : s.jobs i = some { call, program }) {program' : Dialogue Unit}
    {opened : Option Transaction} {stands : List Event × Bool}
    (busy : Busy { committed := s.state.committed, opened } call program' stands)
    (apart : ∀ j t t', j ≠ i → opened = some t → s.state.opened j = some t' →
      ∀ id ∈ t.written.assets, id ∉ t'.written.assets) :
    (s.put i { committed := s.state.committed, opened } (some { call, program := program' })).Sound
      (Function.update standing i stands) := by
  refine sound.replace (by simp) ?_ apart ?_
  · rintro _ _ ⟨⟩
    exact busy
  · rintro _ ⟨⟩ j b' _ works'
    exact sound.calm i j { call, program } b' works works'

/-- A connection has no job any more, and what it has not committed is undone. -/
theorem retired (sound : s.Sound standing) (i : Nat) :
    (s.put i { committed := s.state.committed, opened := none } none).Sound (Function.update standing i ([], false)) :=
  sound.replace (fun _ => rfl) (by simp) (by simp) (by simp)

theorem put_closed (s : Traffic) {i : Nat} (closed : s.state.opened i = none) (job : Option Job) :
    s.put i (s.state.session i) job = s.put i { committed := s.state.committed, opened := none } job := by
  rw [State.session, closed]

/-- A call is begun that clashes with none of the others. -/
theorem started (sound : s.Sound standing) {m : Mutation} (free : s.jobs i = none) (upkeep : InUpkeep m)
    (calm : ∀ j job, s.jobs j = some job → ¬m.Clashes job.call) :
    (s.put i (s.state.session i) (some { call := m, program := callDialogue m })).Sound
      (Function.update standing i ([], false)) := by
  rw [put_closed s (sound.idle i free)]
  refine sound.replace (by simp) ?_ (by simp) ?_
  · rintro _ _ ⟨⟩
    refine ⟨upkeep, callDialogue_attended m, rfl, by simp, ?_⟩
    rintro _ _ _ _ _ ⟨row, more, told, _⟩
    cases told
  · rintro _ ⟨⟩ j b' _ works'
    exact calm j b' works'

/-- A call has ended, with no transaction left open. -/
theorem finished (sound : s.Sound standing) (works : s.jobs i = some { call, program := .done () }) :
    (s.put i (s.state.session i) none).Sound (Function.update standing i ([], false)) := by
  have busy := sound.busy i _ _ works
  have closed : s.state.opened i = none := by
    have outside : (standing i).2 = false := busy.attends
    rw [busy.inside] at outside
    simpa [State.session] using outside
  rw [put_closed s closed]
  exact sound.retired i

/-- A message leaves the connection without a transaction, and nothing is committed. -/
theorem closed (sound : s.Sound standing) (works : s.jobs i = some { call, program := .send m next }) (reply : Reply)
    (noStatement : ∀ q, m ≠ .statement q) (closes : m.leavesOpen (standing i).2 reply = false) :
    (s.put i { committed := s.state.committed, opened := none } (some { call, program := next reply })).Sound
      (Function.update standing i ((standing i).1 ++ [(m, reply)], m.leavesOpen (standing i).2 reply)) :=
  sound.goesOn works ((sound.busy i _ _ works).goesOn (fun q same => absurd same (noStatement q)) closes (by simp)) (by simp)

/-- A message changes nothing. -/
theorem unchanged (sound : s.Sound standing) (works : s.jobs i = some { call, program := .send m next }) {reply : Reply}
    (answered : ∀ q, m = .statement q → reply.isFailed = true ∨ ∃ new, reply = (s.state.session i).view.reply new q)
    (stays : m.leavesOpen (standing i).2 reply = (standing i).2) :
    (s.put i (s.state.session i) (some { call, program := next reply })).Sound
      (Function.update standing i ((standing i).1 ++ [(m, reply)], m.leavesOpen (standing i).2 reply)) := by
  have busy := sound.busy i _ _ works
  refine sound.goesOn works (busy.goesOn answered (stays.trans busy.inside) busy.derived) ?_
  exact fun j t t' differ isOpen isOpen' => sound.apart i j t t' differ isOpen isOpen'

theorem begun (sound : s.Sound standing) (works : s.jobs i = some { call, program := .send .begin next })
    {reply : Reply} (succeeds : reply.isFailed = false) :
    (s.put i { committed := s.state.committed, opened := some {} } (some { call, program := next reply })).Sound
      (Function.update standing i
        ((standing i).1 ++ [(.begin, reply)], Message.leavesOpen (standing i).2 reply .begin)) := by
  have nothing {id : Uuid} {row : Stored NewAsset} : ({} : Transaction).written.assets.lookup id ≠ some row := by simp
  refine sound.goesOn works ((sound.busy i _ _ works).goesOn (by simp) (by simp [Message.leavesOpen, succeeds]) ?_) ?_
  · rintro _ id row ⟨⟩ found
    exact absurd found nothing
  · rintro j _ t' _ ⟨⟩ _ id member
    exact absurd member (AList.notMem_empty id)

/-- A store that has carried out a statement has answered it. -/
theorem answered_statement (x : Session) (new : Supply) (q q' : Statement) (same : Message.statement q = .statement q') :
    (x.view.reply new q).isFailed = true ∨ ∃ new', x.view.reply new q = x.view.reply new' q' := by
  obtain rfl := Message.statement.inj same
  exact Or.inr ⟨new, rfl⟩

/-- Outside of a transaction, statements only read. -/
theorem looked {q : Statement} (sound : s.Sound standing)
    (works : s.jobs i = some { call, program := .send (.statement q) next }) (outside : s.state.opened i = none)
    (new : Supply) :
    (s.put i ((s.state.session i).respond new (.statement q)).2
        (some { call, program := next ((s.state.session i).respond new (.statement q)).1 })).Sound
      (Function.update standing i
        ((standing i).1 ++ [(.statement q, ((s.state.session i).respond new (.statement q)).1)], (standing i).2)) := by
  have busy := sound.busy i _ _ works
  have reads : q.write? = none := by
    by_contra writes
    have inside := busy.attends.1.2 (Option.ne_none_iff_isSome.1 writes)
    rw [busy.inside] at inside
    simp [State.session, outside] at inside
  have responded : (s.state.session i).respond new (.statement q) =
      ((s.state.session i).view.reply new q, s.state.session i) := by
    simp [Session.respond, State.session, outside, Tables.effect_of_reading reads]
  rw [responded]
  exact sound.unchanged works (answered_statement _ new q) rfl

/-- In a transaction, a statement writes what its call may write, and no row that another transaction has written. -/
theorem wrote {q : Statement} (sound : s.Sound standing)
    (works : s.jobs i = some { call, program := .send (.statement q) next }) (isOpen : s.state.opened i = some t)
    {new : Supply} (fresh : s.state.Fresh new q) (free : ¬s.state.Waits i q) :
    (s.put i ((s.state.session i).respond new (.statement q)).2
        (some { call, program := next ((s.state.session i).respond new (.statement q)).1 })).Sound
      (Function.update standing i
        ((standing i).1 ++ [(.statement q, ((s.state.session i).respond new (.statement q)).1)], (standing i).2)) := by
  have busy := sound.busy i _ _ works
  have may := busy.attends.1.1
  have responded : (s.state.session i).respond new (.statement q) =
      ((s.state.session i).view.reply new q,
        { committed := s.state.committed
          opened := some (t.extend ((s.state.session i).view.effect new q) none) }) := by
    simp [Session.respond, State.session, isOpen]
  rw [responded]
  refine sound.goesOn works (busy.goesOn (answered_statement _ new q) ?_ ?_) ?_
  · rw [Message.leavesOpen, busy.inside, State.session, isOpen]
    rfl
  · rintro _ id row ⟨⟩ found
    rcases Option.or_eq_some_iff.1 ((Table.lookup_union _ _ id).symm.trans found) with here | ⟨-, before⟩
    · refine busy.derived_effect sound.ordered may ?_ here
      rintro asset rfl
      exact fresh.1
    · exact busy.derived t id row isOpen before
  · rintro j _ t' differ ⟨⟩ isOpen' id member member'
    rcases AList.mem_union.1 member with here | before
    · rcases busy.target may here with ⟨asset, rfl, rfl⟩ | ⟨patch, updatedBy, rfl, live⟩
      · exact fresh.2 j t' isOpen' member'
      · exact free ⟨live, j, t', differ, isOpen', member'⟩
    · exact sound.apart i j t t' differ isOpen isOpen' id before member'

/-- Rows are committed that come about as the call of some connection lets them. -/
theorem adopted (sound : s.Sound standing) (works : s.jobs i = some { call, program }) {written : Tables}
    (derived : ∀ id row, written.assets.lookup id = some row →
      Derived s.state.committed.assets id row.data call ∧ row.data.Ordered)
    (apart : ∀ j t, s.state.opened j = some t → ∀ id ∈ t.written.assets, id ∉ written.assets) :
    Sound { s with state := { s.state with committed := written ∪ s.state.committed } } standing where
  ordered id row found := by
    rcases Option.or_eq_some_iff.1 ((Table.lookup_union _ _ id).symm.trans found) with own | ⟨-, old⟩
    · exact (derived id row own).2
    · exact sound.ordered id row old
  idle := sound.idle
  busy j call' program' works' :=
    (sound.busy j call' program' works').of_commit (fun id row found => (derived id row found).1)
      (sound.calm j i _ _ works' works) (apart j)
  apart := sound.apart
  calm := sound.calm

/-- A transaction is committed. -/
theorem committed (sound : s.Sound standing) (works : s.jobs i = some { call, program := .send .commit next })
    (new : Supply) (reply : Reply) :
    (s.put i ((s.state.session i).respond new .commit).2 (some { call, program := next reply })).Sound
      (Function.update standing i ((standing i).1 ++ [(.commit, reply)], false)) := by
  have busy := sound.busy i _ _ works
  obtain ⟨t, isOpen⟩ : ∃ t, s.state.opened i = some t := by
    have inside : (standing i).2 = true := busy.attends.1.2
    rw [busy.inside] at inside
    exact Option.isSome_iff_exists.1 inside
  have responded : ((s.state.session i).respond new .commit).2 =
      { committed := t.written ∪ s.state.committed, opened := none } := by
    simp [Session.respond, Session.react, Session.view, State.session, isOpen]
  rw [responded]
  have closes := sound.closed works reply (by simp) rfl
  refine closes.adopted (i := i) (by rw [put_jobs, if_pos rfl]) (fun id row => busy.derived t id row isOpen) ?_
  intro j t' isOpen' id member' member
  rw [put_opened] at isOpen'
  split at isOpen'
  · cases isOpen'
  · next elsewhere => exact sound.apart i j t t' elsewhere isOpen isOpen' id member member'

/-- Whatever happens to a message, what is kept is kept. -/
theorem responds (sound : s.Sound standing) (works : s.jobs i = some { call, program := .send m next }) {reply : Reply}
    {after : Session} (responds : s.state.Responds i m reply after) :
    ∃ standing', (s.put i after (some { call, program := next reply })).Sound standing' := by
  cases responds with
  | takes new taken =>
    cases m with
    | begin =>
      have outside : s.state.opened i = none := by
        have closed : (standing i).2 = false := (sound.busy i _ _ works).attends.1.2
        rw [(sound.busy i _ _ works).inside] at closed
        simpa [State.session] using closed
      have responded : ((s.state.session i).respond new .begin) =
          (.affected 0, { committed := s.state.committed, opened := some {} }) := by
        simp [Session.respond, Session.react, State.session, outside]
      rw [responded]
      exact ⟨_, sound.begun works rfl⟩
    | commit => exact ⟨_, sound.committed works new _⟩
    | rollback => exact ⟨_, sound.closed works _ (by simp) rfl⟩
    | statement q =>
      obtain ⟨fresh, free⟩ := taken q rfl
      cases isOpen : s.state.opened i with
      | none => exact ⟨_, sound.looked works isOpen new⟩
      | some t => exact ⟨_, sound.wrote works isOpen fresh free⟩
  | refuses fault =>
    cases m with
    | begin =>
      refine ⟨_, sound.unchanged works (by simp) ?_⟩
      exact (show (standing i).2 = false from (sound.busy i _ _ works).attends.1.2).symm
    | commit => exact ⟨_, sound.closed works _ (by simp) rfl⟩
    | rollback => exact ⟨_, sound.closed works _ (by simp) rfl⟩
    | statement q => exact ⟨_, sound.unchanged works (fun _ _ => Or.inl rfl) rfl⟩
  | loses new fault => exact ⟨_, sound.committed works new _⟩

end Store.Traffic.Sound

namespace Store.Traffic

/-- A call is begun only while no call is carried out that it clashes with. -/
def Unclashing (s : Traffic) (m : Mutation) : Prop := ∀ i job, s.jobs i = some job → ¬m.Clashes job.call

/-- Every step keeps the traffic sound, as long as no call is admitted that clashes with one under way. -/
theorem Sound.step {s s' : Traffic} {standing : Nat → List Event × Bool} (sound : s.Sound standing)
    (step : Step Unclashing s s') : ∃ standing', s'.Sound standing' := by
  cases step with
  | call i m free upkeep calm => exact ⟨_, sound.started free upkeep calm⟩
  | exchange i works responds => exact sound.responds works responds
  | finish i works => exact ⟨_, sound.finished works⟩
  | drop i => exact ⟨_, sound.retired i⟩

theorem sound_idle {initial : Tables} (ordered : initial.WarrantiesOrdered) : (idle initial).Sound fun _ => ([], false) where
  ordered := ordered
  idle _ _ := rfl
  busy := by simp [Traffic.idle]
  apart := by simp [Traffic.idle]
  calm := by simp [Traffic.idle]

/-- An update of the only asset that gives nothing but warranty dates. -/
def dateUpdate (start finish : Option Date) : Mutation :=
  .updateAsset { userId := .ofNat 3, role := .assetManager } (.ofNat 1)
    { fields :=
        { serialNo := none, ownedBy := none, purchasedDate := none, warrantyStart := start, warrantyEnd := finish }
      specs := none }

def juneDate : Date := ⟨2024, 6, 1, by decide⟩

def januaryDate : Date := ⟨2024, 1, 1, by decide⟩

theorem oneHeld_ordered : System.oneHeld.WarrantiesOrdered := by
  intro id row found
  obtain ⟨-, rfl⟩ : id = .ofNat 1 ∧ _ = row := by simpa [System.oneHeld] using found
  rintro first ⟨⟩

/-- Both updates are checked against the asset without dates before either of them writes its own. -/
theorem warranties_break : ¬∀ (initial : Tables) (s : Traffic), initial.WarrantiesOrdered →
    Reachable (fun _ _ => True) initial s → s.state.committed.WarrantiesOrdered := by
  intro claimed
  have idle : Alone (fun _ _ => True) System.oneHeld 0 (idle System.oneHeld) := .idle 0
  have called := idle.call 0 (m := dateUpdate (some juneDate) none) rfl trivial trivial
  have both := called.call 1 (m := dateUpdate none (some januaryDate)) rfl trivial trivial
  have told := both.take System.someSupply rfl (by rintro q ⟨⟩; trivial)
  have told' := (told.turn rfl 1).take System.someSupply rfl (by rintro q ⟨⟩; trivial)
  have begun := (told'.turn rfl 0).take System.someSupply rfl (by simp)
  have written := begun.take System.someSupply rfl (by rintro q ⟨⟩; trivial)
  have committed := written.take System.someSupply rfl (by simp)
  have begun' := (committed.turn rfl 1).take System.someSupply rfl (by simp)
  have written' := begun'.take System.someSupply rfl (by rintro q ⟨⟩; trivial)
  have committed' := written'.take System.someSupply rfl (by simp)
  have ordered := claimed _ _ oneHeld_ordered committed'.1
  have last := ordered (.ofNat 1) _ rfl juneDate rfl januaryDate rfl
  cases last

/-- Where no two clashing calls are carried out at the same time, the warranty dates of every committed asset stay in
order, whatever is done in whatever order. -/
theorem Reachable.warranties_ordered {initial : Tables} (ordered : initial.WarrantiesOrdered) {s : Traffic}
    (reachable : Reachable Unclashing initial s) : s.state.committed.WarrantiesOrdered := by
  have sound : ∃ standing, s.Sound standing := by
    induction reachable with
    | idle => exact ⟨_, sound_idle ordered⟩
    | step _ step ih =>
      obtain ⟨standing, sound⟩ := ih
      exact sound.step step
  obtain ⟨standing, sound⟩ := sound
  exact sound.ordered

/-- Two updates that give both dates each may overlap. -/
theorem overlap_ordered : System.oneHeld.WarrantiesOrdered ∧ ∃ s, Reachable Unclashing System.oneHeld s ∧
    (s.state.committed.assets.lookup (.ofNat 1)).bind (·.data.warrantyEnd) = some juneDate ∧
    s.state.committed.WarrantiesOrdered := by
  have idle : Alone Unclashing System.oneHeld 0 (idle System.oneHeld) := .idle 0
  have called := idle.call 0 (m := dateUpdate (some januaryDate) (some juneDate)) rfl trivial (by rintro i job ⟨⟩)
  have both := called.call 1 (m := dateUpdate (some juneDate) (some juneDate)) rfl trivial (by
    intro i job works
    rw [put_jobs] at works
    split at works
    · cases works
      rintro ⟨-, upset | upset⟩ <;> exact AssetPatch.not_upset_of_whole rfl upset
    · cases works)
  have told := both.take System.someSupply rfl (by rintro q ⟨⟩; trivial)
  have told' := (told.turn rfl 1).take System.someSupply rfl (by rintro q ⟨⟩; trivial)
  have begun := (told'.turn rfl 0).take System.someSupply rfl (by simp)
  have written := begun.take System.someSupply rfl (by rintro q ⟨⟩; trivial)
  have committed := written.take System.someSupply rfl (by simp)
  exact ⟨oneHeld_ordered, _, committed.1, rfl, Reachable.warranties_ordered oneHeld_ordered committed.1⟩

end Store.Traffic

end AssetRegistry

import AssetRegistry.Proofs.TokenTimes

namespace AssetRegistry

/-- The instant lies in one of the years from the first to the last. -/
def Instant.InYears (first last : Int) (t : Instant) : Prop :=
  Date.dayNumber first 1 1 * 86400 ≤ t.seconds ∧ t.seconds < Date.dayNumber (last + 1) 1 1 * 86400

/-- The years in which tokens are issued, in seconds. -/
theorem Instant.inYears_iff (t : Instant) : t.InYears 1970 9999 ↔ 0 ≤ t.seconds ∧ t.seconds < 253402300800 := Iff.rfl

theorem Instant.seconds_ofSeconds (s : Int) : (ofSeconds s).seconds = s := Int.mul_fdiv_cancel s (by decide)

/-- The first and the last second of the calendar, as numbers. -/
theorem Instant.calendarSeconds_eq : calendarSeconds = (-8334601228800, 8210266876799) := by decide

/-- The calendar holds what lies between its first and its last second. -/
theorem Instant.isSome_addSeconds?_iff (t : Instant) (seconds : Int) :
    (t.addSeconds? seconds).isSome ↔
      -8334601228800 ≤ t.seconds + seconds ∧ t.seconds + seconds ≤ 8210266876799 := by
  have later : (⟨t.micros + seconds * 1000000⟩ : Instant).seconds = t.seconds + seconds :=
    Int.add_mul_fdiv_right _ _ (by decide)
  unfold addSeconds?
  dsimp only
  rw [later, calendarSeconds_eq]
  split
  next holds => simpa using holds
  next past => simpa using past

namespace Issuer

/-- Whenever a token with this lifetime, in seconds, is issued in the years from 1970 to 9999, the calendar holds its
expiry. -/
def Lasts (lifetime : Int) : Prop := ∀ now : Instant, now.InYears 1970 9999 → (now.addSeconds? lifetime).isSome

/-- A negative lifetime has to suit the first of these seconds, and a positive one the last. -/
theorem lasts_iff (lifetime : Int) : Lasts lifetime ↔ -8334601228800 ≤ lifetime ∧ lifetime ≤ 7956864576000 := by
  constructor
  · intro lasts
    have first := lasts (.ofSeconds 0) (by rw [Instant.inYears_iff, Instant.seconds_ofSeconds]; decide)
    have last := lasts (.ofSeconds 253402300799) (by rw [Instant.inYears_iff, Instant.seconds_ofSeconds]; decide)
    rw [Instant.isSome_addSeconds?_iff, Instant.seconds_ofSeconds] at first last
    omega
  · intro bounds now inYears
    rw [Instant.inYears_iff] at inYears
    rw [Instant.isSome_addSeconds?_iff]
    omega

/-- The milliseconds of a span of time fit in 64 bits. -/
theorem lifetime?_eq_some_iff {count : Int64} {unit lifetime : Int} :
    lifetime? count unit = some lifetime ↔
      lifetime = unit * count.toInt ∧ -(2 ^ 63 - 1) ≤ lifetime * 1000 ∧ lifetime * 1000 ≤ 2 ^ 63 - 1 := by
  have greatest : Int64.maxValue.toInt = 2 ^ 63 - 1 := rfl
  unfold lifetime?
  rw [greatest, Int.mul_comm count.toInt]
  dsimp only
  split
  next fits =>
    rw [Bool.and_eq_true, decide_eq_true_eq, decide_eq_true_eq] at fits
    constructor
    · rintro ⟨⟩
      exact ⟨rfl, fits⟩
    · rintro ⟨rfl, -⟩
      rfl
  next tooLong =>
    rw [Bool.and_eq_true, decide_eq_true_eq, decide_eq_true_eq] at tooLong
    refine ⟨nofun, ?_⟩
    rintro ⟨rfl, fits⟩
    exact absurd fits tooLong

/-- A lifetime that is refused could not have been used at any time of these years. -/
theorem not_isSome_of_refused {count : Int64} {unit : Int} (refused : lifetime? count unit = none) {now : Instant}
    (inYears : now.InYears 1970 9999) : now.addSeconds? (unit * count.toInt) = none := by
  have tooLong : ¬(-(2 ^ 63 - 1) ≤ unit * count.toInt * 1000 ∧ unit * count.toInt * 1000 ≤ 2 ^ 63 - 1) := by
    intro fits
    rw [lifetime?_eq_some_iff.2 ⟨rfl, fits⟩] at refused
    cases refused
  rw [Instant.inYears_iff] at inYears
  rw [← Option.not_isSome_iff_eq_none, Instant.isSome_addSeconds?_iff]
  omega

/-- The settings name a lifetime that could not have been used at any time of these years. -/
def Refuses (minutes hours : Int64) (e : AuthError) : Prop :=
  (e = .invalidTtl "JWT_ACCESS_TTL_MINUTES" ∧
    ∀ now : Instant, now.InYears 1970 9999 → now.addSeconds? (60 * minutes.toInt) = none) ∨
  (e = .invalidTtl "JWT_REFRESH_TTL_HOURS" ∧
    ∀ now : Instant, now.InYears 1970 9999 → now.addSeconds? (3600 * hours.toInt) = none)

/-- Settings with a secret are refused for one of the lifetimes only, for that of access tokens first. -/
theorem refuses_of_ofSettings {secret : String} (nonempty : secret ≠ "") {minutes hours : Int64} {e : AuthError}
    (refused : ofSettings secret minutes hours = .error e) : Refuses minutes hours e := by
  unfold ofSettings at refused
  cases access : lifetime? minutes 60 with
  | none =>
    rw [access] at refused
    exact Or.inl ⟨(Except.error.inj refused).symm, fun _ => not_isSome_of_refused access⟩
  | some accessLifetime =>
    cases refresh : lifetime? hours 3600 with
    | none =>
      rw [access, refresh] at refused
      exact Or.inr ⟨(Except.error.inj refused).symm, fun _ => not_isSome_of_refused refresh⟩
    | some refreshLifetime =>
      have given : secret.isEmpty = false := by simpa using nonempty
      rw [access, refresh] at refused
      simp [given, pure, Except.pure] at refused

theorem Refuses.not_lasts {minutes hours : Int64} {e : AuthError} (refuses : Refuses minutes hours e) :
    ¬(Lasts (60 * minutes.toInt) ∧ Lasts (3600 * hours.toInt)) := by
  have inYears : (Instant.ofSeconds 0).InYears 1970 9999 := by
    rw [Instant.inYears_iff, Instant.seconds_ofSeconds]
    decide
  rintro ⟨access, refresh⟩
  rcases refuses with ⟨-, past⟩ | ⟨-, past⟩
  · have held := access _ inYears
    rw [past _ inYears] at held
    cases held
  · have held := refresh _ inYears
    rw [past _ inYears] at held
    cases held

/-- The second at which a token expires is known exactly if the calendar holds it, and nothing else can go wrong. -/
theorem expiry_cases (now : Instant) (lifetime : Int) :
    ((now.addSeconds? lifetime).isSome ∧ ∃ expires, expiry now lifetime = .ok expires) ∨
      (now.addSeconds? lifetime = none ∧ expiry now lifetime = .error .beyondCalendar) := by
  unfold expiry
  cases now.addSeconds? lifetime with
  | some t => exact Or.inl ⟨rfl, _, rfl⟩
  | none => exact Or.inr ⟨rfl, rfl⟩

/-- A token is issued unless its expiry lies beyond the calendar. -/
theorem issueAccess_cases (i : Issuer) (now : Instant) (userId : Uuid) (role : Role) :
    ((now.addSeconds? i.accessLifetime).isSome ∧ ∃ token, i.issueAccess now userId role = .ok token) ∨
      (now.addSeconds? i.accessLifetime = none ∧ i.issueAccess now userId role = .error .beyondCalendar) := by
  rcases expiry_cases now i.accessLifetime with ⟨held, expires, known⟩ | ⟨past, unknown⟩
  · exact Or.inl ⟨held, _, issueAccess_eq known⟩
  · refine Or.inr ⟨past, ?_⟩
    unfold issueAccess
    rw [unknown]
    rfl

theorem issueRefresh_cases (i : Issuer) (now : Instant) (userId : Uuid) :
    ((now.addSeconds? i.refreshLifetime).isSome ∧ ∃ token, i.issueRefresh now userId = .ok token) ∨
      (now.addSeconds? i.refreshLifetime = none ∧ i.issueRefresh now userId = .error .beyondCalendar) := by
  rcases expiry_cases now i.refreshLifetime with ⟨held, expires, known⟩ | ⟨past, unknown⟩
  · exact Or.inl ⟨held, _, issueRefresh_eq known⟩
  · refine Or.inr ⟨past, ?_⟩
    unfold issueRefresh
    rw [unknown]
    rfl

/-- Tokens can be issued in all years exactly if the lifetime lasts. -/
theorem issueAccess_lasts_iff (i : Issuer) (userId : Uuid) (role : Role) :
    (∀ now : Instant, now.InYears 1970 9999 → ∃ token, i.issueAccess now userId role = .ok token) ↔
      Lasts i.accessLifetime := by
  refine forall_congr' fun now => imp_congr_right fun _ => ?_
  rcases issueAccess_cases i now userId role with ⟨held, issued⟩ | ⟨past, failed⟩
  · simp [held, issued]
  · simp [past, failed]

theorem issueRefresh_lasts_iff (i : Issuer) (userId : Uuid) :
    (∀ now : Instant, now.InYears 1970 9999 → ∃ token, i.issueRefresh now userId = .ok token) ↔
      Lasts i.refreshLifetime := by
  refine forall_congr' fun now => imp_congr_right fun _ => ?_
  rcases issueRefresh_cases i now userId with ⟨held, issued⟩ | ⟨past, failed⟩
  · simp [held, issued]
  · simp [past, failed]

/-- The lifetimes of an issuer, in seconds, are the ones of its settings. -/
theorem lifetimes_eq {secret : String} {minutes hours : Int64} {i : Issuer}
    (configured : ofSettings secret minutes hours = .ok i) :
    i.accessLifetime = 60 * minutes.toInt ∧ i.refreshLifetime = 3600 * hours.toInt := by
  obtain ⟨access, refresh⟩ := lifetimes_of_ofSettings configured
  exact ⟨(lifetime?_eq_some_iff.1 access).1, (lifetime?_eq_some_iff.1 refresh).1⟩

/-- Settings are accepted, and their tokens issued at any time of these years, as far as both lifetimes leave the calendar
behind at none of these times. -/
theorem usable_iff {secret : String} (nonempty : secret ≠ "") (minutes hours : Int64) :
    (∃ i, ofSettings secret minutes hours = .ok i ∧ ∀ userId role (now : Instant), now.InYears 1970 9999 →
        (∃ token, i.issueAccess now userId role = .ok token) ∧ ∃ token, i.issueRefresh now userId = .ok token) ↔
      Lasts (60 * minutes.toInt) ∧ Lasts (3600 * hours.toInt) := by
  constructor
  · rintro ⟨i, configured, issues⟩
    obtain ⟨access, refresh⟩ := lifetimes_eq configured
    rw [← access, ← refresh, ← issueAccess_lasts_iff i (.ofNat 0) .admin, ← issueRefresh_lasts_iff i (.ofNat 0)]
    exact ⟨fun now inYears => (issues _ _ now inYears).1, fun now inYears => (issues _ .admin now inYears).2⟩
  · intro lasts
    cases configured : ofSettings secret minutes hours with
    | error e => exact absurd lasts (refuses_of_ofSettings nonempty configured).not_lasts
    | ok i =>
      obtain ⟨access, refresh⟩ := lifetimes_eq configured
      rw [← access, ← refresh] at lasts
      refine ⟨i, rfl, fun userId role now inYears => ⟨?_, ?_⟩⟩
      · exact (issueAccess_lasts_iff i userId role).2 lasts.1 now inYears
      · exact (issueRefresh_lasts_iff i userId).2 lasts.2 now inYears

/-- Nearly two million years fit in 64 bits of milliseconds, but not in the calendar. -/
theorem lifetime_breaks : ∃ i, ofSettings "keep this safe" 1000000000000 24 = .ok i ∧
    (⟨1700000000000000⟩ : Instant).InYears 1970 9999 ∧
    i.issueAccess ⟨1700000000000000⟩ (.ofNat 7) .admin = .error .beyondCalendar := by
  refine ⟨⟨Text.utf8 "keep this safe", 60000000000000, 86400⟩, rfl, ?_, rfl⟩
  rw [Instant.inYears_iff]
  decide

/-- Settings are accepted and of use at any time of the years from 1970 to 9999 exactly if both lifetimes stay within the
bounds that these years leave to the calendar. With any accepted settings a token is issued exactly if the calendar holds
its expiry. Refused settings name a lifetime that could not have been used at any of these times. -/
theorem lifetimes_usable {secret : String} (nonempty : secret ≠ "") (minutes hours : Int64) :
    ((∃ i, ofSettings secret minutes hours = .ok i ∧ ∀ userId role (now : Instant), now.InYears 1970 9999 →
        (∃ token, i.issueAccess now userId role = .ok token) ∧ ∃ token, i.issueRefresh now userId = .ok token) ↔
      (-138910020480 ≤ minutes.toInt ∧ minutes.toInt ≤ 132614409600) ∧
        -2315167008 ≤ hours.toInt ∧ hours.toInt ≤ 2210240160) ∧
    (∀ i, ofSettings secret minutes hours = .ok i → ∀ userId role (now : Instant),
      (((now.addSeconds? (60 * minutes.toInt)).isSome ∧ ∃ token, i.issueAccess now userId role = .ok token) ∨
        (now.addSeconds? (60 * minutes.toInt) = none ∧ i.issueAccess now userId role = .error .beyondCalendar)) ∧
      (((now.addSeconds? (3600 * hours.toInt)).isSome ∧ ∃ token, i.issueRefresh now userId = .ok token) ∨
        (now.addSeconds? (3600 * hours.toInt) = none ∧ i.issueRefresh now userId = .error .beyondCalendar))) ∧
    ∀ e, ofSettings secret minutes hours = .error e → Refuses minutes hours e := by
  refine ⟨?_, fun i configured userId role now => ?_, fun e => refuses_of_ofSettings nonempty⟩
  · rw [usable_iff nonempty, lasts_iff, lasts_iff]
    omega
  · obtain ⟨access, refresh⟩ := lifetimes_eq configured
    have accessEnds := issueAccess_cases i now userId role
    have refreshEnds := issueRefresh_cases i now userId
    rw [access] at accessEnds
    rw [refresh] at refreshEnds
    exact ⟨accessEnds, refreshEnds⟩

/-- The longest lifetime of access tokens that is of use at any time, and the shortest one of refresh tokens. -/
theorem longest_usable : "keep this safe" ≠ "" ∧ ∃ i, ofSettings "keep this safe" 132614409600 (-2315167008) = .ok i ∧
    (∃ token, i.issueAccess (.ofSeconds 253402300799) (.ofNat 7) .admin = .ok token) ∧
    ∃ token, i.issueRefresh (.ofSeconds 0) (.ofNat 7) = .ok token := by
  have secret : "keep this safe" ≠ "" := by decide
  obtain ⟨i, configured, issues⟩ := (lifetimes_usable secret 132614409600 (-2315167008)).1.2 (by decide)
  refine ⟨secret, i, configured, ?_, ?_⟩
  · exact (issues (.ofNat 7) .admin _ (by rw [Instant.inYears_iff, Instant.seconds_ofSeconds]; decide)).1
  · exact (issues (.ofNat 7) .admin _ (by rw [Instant.inYears_iff, Instant.seconds_ofSeconds]; decide)).2

end Issuer
end AssetRegistry

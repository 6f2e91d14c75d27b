import AssetRegistry.Connection.Options
import AssetRegistry.Proofs.FormTexts

namespace AssetRegistry.Connection

/-- Where an address holds a password. -/
inductive Carrier where
  | userInformation
  | parameter

/-- The characters that end a password. -/
def Carrier.ends : Carrier → List Char
  | userInformation => ['/', '?', '#']
  | parameter => ['&', '#']

/-- What stands before and after the password of an address. -/
inductive Carries : Carrier → (front back : List Char) → Prop
  | userInformation (scheme user host tail : List Char) : ':' ∉ scheme → (∀ c ∈ user, c ∉ [':', '/', '?', '#']) →
      (∀ c ∈ host, c ∉ ['@', '/', '?', '#']) → (∀ c ∈ tail.head?, c ∈ ['/', '?', '#']) →
      Carries .userInformation (scheme ++ "://".toList ++ user ++ [':']) ('@' :: host ++ tail)
  | parameter (scheme place before after fragment : List Char) : ':' ∉ scheme → (∀ c ∈ place, c ∉ ['?', '#']) →
      '#' ∉ before → (∀ c ∈ before.getLast?, c = '&') → '#' ∉ after → (∀ c ∈ after.head?, c = '&') →
      (∀ c ∈ fragment.head?, c = '#') →
      Carries .parameter (scheme ++ ':' :: place ++ '?' :: before ++ "password=".toList) (after ++ fragment)

/-- Two addresses that are the same but for their passwords, blanks at the ends and breaks of lines aside. -/
def Rekeyed (carrier : Carrier) (address address' : String) : Prop :=
  ∃ front secret secret' back, Carries carrier front back ∧ Url.clean address = front ++ secret ++ back ∧
    Url.clean address' = front ++ secret' ++ back ∧ secret ≠ [] ∧ secret' ≠ [] ∧
    ∀ c ∈ secret ++ secret', c ∉ carrier.ends

namespace Url

/-- The scheme that a text names, in lower case. -/
def schemeName? : List Char → Option String
  | c :: inner =>
    if c.isAlpha && inner.all fun c => c.isAlphanum || c = '+' || c = '-' || c = '.' then
      some (.ofList ((c :: inner).map Char.toLower))
    else none
  | [] => none

theorem splitScheme?_append {scheme : List Char} (absent : ':' ∉ scheme) (rest : List Char) :
    splitScheme? (scheme ++ ':' :: rest) = (schemeName? scheme).map (·, rest) := by
  unfold splitScheme?
  rw [Text.takeWhile_of_edge absent (by simp), Text.dropWhile_of_edge absent (by simp)]
  cases scheme with
  | nil => rfl
  | cons c inner =>
    unfold schemeName?
    dsimp only
    split <;> rfl

/-- The address with another password in its user information. -/
def withPassword (u : Url) (password : String) : Url :=
  { u with authority := u.authority.map fun a => { a with password := some password } }

/-- The redacted address does not depend on the password. -/
theorem redacted_withPassword (u : Url) (password password' : String) :
    (u.withPassword password).redacted = (u.withPassword password').redacted := by
  unfold withPassword redacted
  cases u.authority <;> rfl

/-- The authority of an address, empty where there is none. -/
def place (u : Url) : Authority := u.authority.getD ⟨"", none, "", none⟩

/-- Another password changes nothing else about the authority. -/
theorem place_withPassword (u : Url) (password : String) :
    (u.withPassword password).place.user = u.place.user ∧ (u.withPassword password).place.host = u.place.host ∧
      (u.withPassword password).place.tcpPort = u.place.tcpPort := by
  unfold withPassword place
  cases u.authority <;> exact ⟨rfl, rfl, rfl⟩

/-- What stands behind an authority is read whatever the authority is. -/
theorem parse?_of_authority {scheme tail : List Char} (colon : ':' ∉ scheme)
    (edge : ∀ c ∈ tail.head?, c ∈ ['/', '?', '#']) :
    ∃ isLast path query fragment, ∀ (authority : List Char) (s : String),
      (∀ c ∈ authority, c ∉ ['/', '?', '#']) → clean s = scheme ++ "://".toList ++ authority ++ tail →
      parse? s = (schemeName? scheme).bind fun name =>
        (authority? name isLast authority).map fun a => ⟨name, some a, path, query, fragment⟩ := by
  let main := (tail.takeWhile (· != '#')).takeWhile (· != '?')
  let query := marked queryReserved ((tail.takeWhile (· != '#')).dropWhile (· != '?'))
  let fragment := marked fragmentReserved (tail.dropWhile (· != '#'))
  have slash : ∀ c ∈ main.head?, c = '/' := by
    cases tail with
    | nil => nofun
    | cons c rest =>
      have first : c ∈ ['/', '?', '#'] := edge c rfl
      simp only [List.mem_cons, List.not_mem_nil, or_false] at first
      obtain rfl | rfl | rfl := first
      · exact fun c first => (Option.some.inj first).symm
      · nofun
      · nofun
  refine ⟨main.isEmpty && query.isNone && fragment.isNone, pathAfterAuthority main, query, fragment, ?_⟩
  intro authority s plain cleaned
  have noSlash : '/' ∉ authority := fun member => plain _ member (by decide)
  have noHash : '#' ∉ '/' :: '/' :: authority := by
    simp only [List.mem_cons, not_or]
    exact ⟨by decide, by decide, fun member => plain _ member (by decide)⟩
  have noMark : '?' ∉ '/' :: '/' :: authority := by
    simp only [List.mem_cons, not_or]
    exact ⟨by decide, by decide, fun member => plain _ member (by decide)⟩
  have cut : clean s = scheme ++ ':' :: (('/' :: '/' :: authority) ++ tail) := by simp [cleaned]
  unfold parse?
  rw [cut, splitScheme?_append colon]
  cases schemeName? scheme with
  | none => rfl
  | some name =>
    rw [Option.map_some, Option.bind_some]
    simp only [Option.bind_eq_bind, Option.bind_some, Text.takeWhile_of_absent noHash, Text.dropWhile_of_absent noHash,
      Text.takeWhile_of_absent noMark, Text.dropWhile_of_absent noMark]
    simp only [List.cons_append]
    rw [Text.takeWhile_of_edge noSlash slash, Text.dropWhile_of_edge noSlash slash]
    cases authority? name _ authority <;> rfl

theorem authority?_of_keyed {user host secret : List Char} (colon : ':' ∉ user) (single : '@' ∉ host)
    (named : secret ≠ []) (scheme : String) (isLast : Bool) :
    authority? scheme isLast (user ++ ':' :: secret ++ '@' :: host) = (host? (splitHost host).1).bind fun name =>
      (tcpPort? (splitHost host).2).bind fun tcpPort =>
        if name.isEmpty then none
        else some ⟨escape userReserved user, some (escape userReserved secret), name, tcpPort⟩ := by
  have parts : userParts (user ++ ':' :: secret) = (escape userReserved user, some (escape userReserved secret)) := by
    have nonempty : secret.isEmpty = false := by simpa using named
    unfold userParts
    rw [Text.splitFirst_append colon]
    simp [nonempty]
  have divided : splitUser (user ++ ':' :: secret ++ '@' :: host) = (some (user ++ ':' :: secret), host) := by
    unfold splitUser
    rw [Text.splitLast_append _ single]
  unfold authority?
  rw [divided]
  simp [parts]

/-- Another secret in the user information changes the password and nothing else. -/
theorem authority?_of_rekeyed {user host secret secret' : List Char} (colon : ':' ∉ user) (single : '@' ∉ host)
    (named : secret ≠ []) (named' : secret' ≠ []) (scheme : String) (isLast : Bool) :
    authority? scheme isLast (user ++ ':' :: secret' ++ '@' :: host) =
      (authority? scheme isLast (user ++ ':' :: secret ++ '@' :: host)).map fun a =>
        { a with password := some (escape userReserved secret') } := by
  rw [authority?_of_keyed colon single named, authority?_of_keyed colon single named']
  cases host? (splitHost host).1 with
  | none => rfl
  | some name =>
    cases tcpPort? (splitHost host).2 with
    | none => rfl
    | some tcpPort =>
      rw [Option.bind_some, Option.bind_some, Option.bind_some, Option.bind_some]
      split <;> rfl

/-- An address with another password in its user information is read as before but for the password. -/
theorem parse?_of_userInformation {front back secret secret' : List Char} {s s' : String}
    (carries : Carries .userInformation front back) (cleaned : clean s = front ++ secret ++ back)
    (cleaned' : clean s' = front ++ secret' ++ back) (named : secret ≠ []) (named' : secret' ≠ [])
    (ends : ∀ c ∈ secret ++ secret', c ∉ Carrier.userInformation.ends) :
    parse? s' = (parse? s).map (·.withPassword (escape userReserved secret')) := by
  cases carries with
  | userInformation scheme user host tail colon plainUser plainHost edge =>
    obtain ⟨isLast, path, query, fragment, reads⟩ := parse?_of_authority colon edge
    have userColon : ':' ∉ user := fun member => plainUser _ member (by decide)
    have single : '@' ∉ host := fun member => plainHost _ member (by decide)
    have plain {secret : List Char} (ends : ∀ c ∈ secret, c ∉ Carrier.userInformation.ends) :
        ∀ c ∈ user ++ ':' :: secret ++ '@' :: host, c ∉ ['/', '?', '#'] := by
      intro c member
      simp only [List.mem_append, List.mem_cons] at member
      obtain (inUser | rfl | inSecret) | rfl | inHost := member
      · exact fun isEnd => plainUser c inUser (List.mem_cons_of_mem _ isEnd)
      · decide
      · exact ends c inSecret
      · decide
      · exact fun isEnd => plainHost c inHost (List.mem_cons_of_mem _ isEnd)
    rw [List.forall_mem_append] at ends
    rw [reads _ s (plain ends.1) (by simp [cleaned]), reads _ s' (plain ends.2) (by simp [cleaned'])]
    cases schemeName? scheme with
    | none => rfl
    | some name =>
      rw [Option.bind_some, Option.bind_some, authority?_of_rekeyed userColon single named named', Option.map_map,
        Option.map_map]
      rfl

/-- An address with another query is read as before but for the query. -/
theorem parse?_of_query {scheme place query query' fragment : List Char} {s s' : String} (colon : ':' ∉ scheme)
    (plain : ∀ c ∈ place, c ∉ ['?', '#']) (edge : ∀ c ∈ fragment.head?, c = '#') (inside : '#' ∉ query)
    (inside' : '#' ∉ query') (cleaned : clean s = scheme ++ ':' :: (place ++ '?' :: query ++ fragment))
    (cleaned' : clean s' = scheme ++ ':' :: (place ++ '?' :: query' ++ fragment)) :
    parse? s' = (parse? s).map fun u => { u with query := some (escape queryReserved query') } := by
  have noMark : '?' ∉ place := fun member => plain _ member (by decide)
  have noHash {query : List Char} (inside : '#' ∉ query) : '#' ∉ place ++ '?' :: query := by
    simp only [List.mem_append, List.mem_cons, not_or]
    exact ⟨fun member => plain _ member (by decide), by decide, inside⟩
  have mark {query : List Char} : ∀ c ∈ ('?' :: query).head?, c = '?' := by simp
  unfold parse?
  rw [cleaned, cleaned', splitScheme?_append colon, splitScheme?_append colon]
  cases schemeName? scheme with
  | none => rfl
  | some name =>
    simp only [Option.map_some, Option.bind_eq_bind, Option.bind_some, Text.takeWhile_of_edge (noHash inside) edge,
      Text.dropWhile_of_edge (noHash inside) edge, Text.takeWhile_of_edge (noHash inside') edge,
      Text.dropWhile_of_edge (noHash inside') edge, Text.takeWhile_of_edge noMark mark,
      Text.dropWhile_of_edge noMark mark, marked]
    split
    · simp only [Option.isNone_some, Bool.and_false, Bool.false_and]
      cases authority? name false _ <;> rfl
    · split <;> rfl
    · split <;> rfl

theorem ampersand_not_mem_escape {reserved : Char → Bool} {cs : List Char} (absent : '&' ∉ cs) :
    '&' ∉ (escape reserved cs).toList := by
  have digits : ∀ n < 16, '&' ≠ (if n < 10 then Char.ofNat (48 + n) else Char.ofNat (55 + n)) := by decide +kernel
  have escapes (b : UInt8) : '&' ∉ Text.escapeByte b := by
    have bound := b.toNat_lt
    unfold Text.escapeByte
    simp only [List.mem_cons, List.not_mem_nil, or_false, not_or]
    exact ⟨by decide, digits _ (by omega), digits _ (by omega)⟩
  unfold escape Text.escapeWhere
  rw [String.toList_ofList, List.mem_flatMap]
  rintro ⟨c, among, member⟩
  split at member
  · obtain ⟨b, -, member⟩ := List.mem_flatMap.1 member
    exact escapes b member
  · rw [List.mem_singleton] at member
    rw [member] at absent
    exact absent among

theorem escape_append (reserved : Char → Bool) (cs cs' : List Char) :
    escape reserved (cs ++ cs') = escape reserved cs ++ escape reserved cs' := by
  unfold escape Text.escapeWhere
  rw [List.flatMap_append, String.ofList_append]

/-- A password among the parameters is one of the pairs, and what stands around it is read whatever it is. -/
theorem exists_formPairs_of_keyed {before after : List Char} (opens : ∀ c ∈ before.getLast?, c = '&')
    (closes : ∀ c ∈ after.head?, c = '&') : ∃ pairs pairs', ∀ secret : List Char, '&' ∉ secret →
      Text.formPairs (escape queryReserved (before ++ "password=".toList ++ secret ++ after)) =
        pairs ++ ("password", Text.formText (Text.utf8 (escape queryReserved secret))) :: pairs' := by
  have key : Text.formText (Text.utf8 "password") = "password" :=
    Text.formText_of_written (Text.written_of_plain (by simp [Text.formMarks]))
  have ampersand : escape queryReserved ['&'] = "&" := by decide
  have equals : escape queryReserved "password=".toList = "password" ++ "=" := by decide
  have pair {secret : List Char} (absent : '&' ∉ secret) :
      Text.formPairs ("password" ++ "=" ++ escape queryReserved secret) =
        [("password", Text.formText (Text.utf8 (escape queryReserved secret)))] := by
    rw [Text.formPairs_of_absent (by decide) (by decide) (ampersand_not_mem_escape absent), key]
  have upTo : ∃ pairs', ∀ secret : List Char, '&' ∉ secret →
      Text.formPairs (escape queryReserved ("password=".toList ++ secret ++ after)) =
        ("password", Text.formText (Text.utf8 (escape queryReserved secret))) :: pairs' := by
    cases after with
    | nil =>
      refine ⟨[], fun secret absent => ?_⟩
      rw [List.append_nil, escape_append, equals, pair absent]
    | cons c rest =>
      obtain rfl : c = '&' := closes c rfl
      refine ⟨Text.formPairs (escape queryReserved rest), fun secret absent => ?_⟩
      rw [← List.singleton_append, escape_append, escape_append, escape_append, equals, ampersand, ← String.append_assoc,
        Text.formPairs_append, pair absent]
      rfl
  obtain ⟨pairs', reads⟩ := upTo
  obtain rfl | ⟨rest, c, rfl⟩ := List.eq_nil_or_concat' before
  · refine ⟨[], pairs', fun secret absent => ?_⟩
    rw [List.nil_append, reads secret absent]
    rfl
  · obtain rfl : c = '&' := opens c (by simp)
    refine ⟨Text.formPairs (escape queryReserved rest), pairs', fun secret absent => ?_⟩
    rw [List.append_assoc, List.append_assoc, List.append_assoc, ← List.append_assoc "password=".toList,
      escape_append, escape_append, ampersand, ← String.append_assoc, Text.formPairs_append, reads secret absent]

/-- Addresses with the same text that are the same but for their queries are the same. -/
theorem query_eq_of_toText {u : Url} {query query' : String}
    (same : ({ u with query := some query } : Url).toText = ({ u with query := some query' } : Url).toText) :
    query = query' := by
  rw [← String.toList_inj] at same ⊢
  simpa [toText] using same

/-- An address with another password among its parameters is read as before but for this parameter. -/
theorem parse?_of_parameter {front back secret secret' : List Char} {s s' : String}
    (carries : Carries .parameter front back) (cleaned : clean s = front ++ secret ++ back)
    (cleaned' : clean s' = front ++ secret' ++ back) (ends : ∀ c ∈ secret ++ secret', c ∉ Carrier.parameter.ends) :
    ∃ query query' pairs pairs' value value',
      parse? s = (parse? s).map (fun u => { u with query := some query }) ∧
      parse? s' = (parse? s).map (fun u => { u with query := some query' }) ∧
      Text.formPairs query = pairs ++ ("password", value) :: pairs' ∧
      Text.formPairs query' = pairs ++ ("password", value') :: pairs' := by
  cases carries with
  | parameter scheme place before after fragment colon plain noHash opens noHash' closes edge =>
    have noAmpersand {secret : List Char} (ends : ∀ c ∈ secret, c ∉ Carrier.parameter.ends) : '&' ∉ secret :=
      fun member => ends _ member (by decide)
    have inside {secret : List Char} (ends : ∀ c ∈ secret, c ∉ Carrier.parameter.ends) :
        '#' ∉ before ++ "password=".toList ++ secret ++ after := by
      have absent : '#' ∉ secret := fun member => ends _ member (by decide)
      have absent' : '#' ∉ "password=".toList := by decide
      simp only [List.mem_append, not_or]
      exact ⟨⟨⟨noHash, absent'⟩, absent⟩, noHash'⟩
    rw [List.forall_mem_append] at ends
    have whole : clean s =
        scheme ++ ':' :: (place ++ '?' :: (before ++ "password=".toList ++ secret ++ after) ++ fragment) := by
      simp [cleaned]
    have whole' : clean s' =
        scheme ++ ':' :: (place ++ '?' :: (before ++ "password=".toList ++ secret' ++ after) ++ fragment) := by
      simp [cleaned']
    obtain ⟨pairs, pairs', reads⟩ := exists_formPairs_of_keyed opens closes
    exact ⟨_, _, pairs, pairs', _, _, parse?_of_query colon plain edge (inside ends.1) (inside ends.1) whole whole,
      parse?_of_query colon plain edge (inside ends.1) (inside ends.2) whole whole', reads secret (noAmpersand ends.1),
      reads secret' (noAmpersand ends.2)⟩

end Url

namespace Options

/-- All but the password. -/
def unkeyed (o : Options) : Options := { o with password := none }

/-- The options after some parameters, one by one. -/
def withParameters (o : Options) (pairs : List (String × String)) : Option Options :=
  pairs.foldlM (fun o pair => o.withParameter pair.1 pair.2) o

theorem withParameters_cons (o : Options) (pair : String × String) (pairs : List (String × String)) :
    o.withParameters (pair :: pairs) = (o.withParameter pair.1 pair.2).bind (·.withParameters pairs) :=
  List.foldlM_cons

theorem unkeyed_ite {c : Prop} [Decidable c] {x x' y y' : Option Options} (same : x.map unkeyed = y.map unkeyed)
    (same' : x'.map unkeyed = y'.map unkeyed) :
    (if c then x else x').map unkeyed = (if c then y else y').map unkeyed := by
  split
  · exact same
  · exact same'

/-- What a parameter does to the options does not depend on the password. -/
theorem withParameter_unkeyed (o : Options) (key value : String) :
    (o.unkeyed.withParameter key value).map unkeyed = (o.withParameter key value).map unkeyed := by
  have number : ((Settings.uint16? value).map fun n => { o.unkeyed with tcpPort := n }).map unkeyed =
      ((Settings.uint16? value).map fun n => { o with tcpPort := n }).map unkeyed := by
    rw [Option.map_map, Option.map_map]
    rfl
  have capacity : ((Settings.uint64? value).map fun _ => o.unkeyed).map unkeyed =
      ((Settings.uint64? value).map fun _ => o).map unkeyed := by
    rw [Option.map_map, Option.map_map]
    rfl
  unfold withParameter
  -- where the store is
  refine unkeyed_ite rfl (unkeyed_ite (unkeyed_ite rfl rfl) (unkeyed_ite number ?_))
  -- whose it is, the password among it, and what it is told
  refine unkeyed_ite rfl (unkeyed_ite rfl (unkeyed_ite rfl (unkeyed_ite rfl ?_)))
  -- what is only checked
  refine unkeyed_ite (unkeyed_ite rfl rfl) (unkeyed_ite capacity ?_)
  cases variableName? key <;> rfl

/-- What the parameters say apart from the password does not depend on an earlier password. -/
theorem withParameters_unkeyed (o : Options) (pairs : List (String × String)) :
    (o.unkeyed.withParameters pairs).map unkeyed = (o.withParameters pairs).map unkeyed := by
  induction pairs generalizing o with
  | nil => rfl
  | cons pair pairs ih =>
    rw [withParameters_cons, withParameters_cons]
    have here := o.withParameter_unkeyed pair.1 pair.2
    cases first : o.withParameter pair.1 pair.2 with
    | none =>
      rw [first, Option.map_none, Option.map_eq_none_iff] at here
      rw [here]
    | some next =>
      rw [first, Option.map_some, Option.map_eq_some_iff] at here
      obtain ⟨next', first', same⟩ := here
      rw [first', Option.bind_some, Option.bind_some, ← ih next', same]
      exact ih next

/-- What an address says before its parameters do. -/
def bare (u : Url) (host user : String) (password : Option String) : Options :=
  let path := String.ofList (u.path.toList.dropWhile (· = '/'))
  { host
    tcpPort := u.place.tcpPort.getD 5432
    user
    password
    database := if path.isEmpty then none else some path
    options := none }

theorem bare_of_ofUrl? {user : String} {u : Url} {o : Options} (accepted : ofUrl? user u = some o) :
    ∃ host name password, reached? u.place.host = some host ∧
      (if u.place.user.isEmpty then some user else unescaped? u.place.user) = some name ∧
      u.place.password.mapM unescaped? = some password ∧
      (bare u host name password).withParameters (Text.formPairs (u.query.getD "")) = some o := by
  unfold ofUrl? at accepted
  obtain ⟨host, hostIs, accepted⟩ := Option.bind_eq_some_iff.1 accepted
  dsimp only at accepted
  split at accepted
  case isTrue unnamed =>
    obtain ⟨name, nameIs, accepted⟩ := Option.bind_eq_some_iff.1 accepted
    obtain ⟨password, passwordIs, reads⟩ := Option.bind_eq_some_iff.1 accepted
    exact ⟨host, name, password, hostIs, (if_pos unnamed).trans nameIs, passwordIs, reads⟩
  case isFalse isNamed =>
    obtain ⟨name, nameIs, accepted⟩ := Option.bind_eq_some_iff.1 accepted
    obtain ⟨password, passwordIs, reads⟩ := Option.bind_eq_some_iff.1 accepted
    exact ⟨host, name, password, hostIs, (if_neg isNamed).trans nameIs, passwordIs, reads⟩

/-- The same parameters lead from options that differ in the password to such options. -/
theorem unkeyed_of_withParameters {start start' o o' : Options} {pairs : List (String × String)}
    (same : start'.unkeyed = start.unkeyed) (reads : start.withParameters pairs = some o)
    (reads' : start'.withParameters pairs = some o') : o'.unkeyed = o.unkeyed := by
  have read := start.withParameters_unkeyed pairs
  have read' := start'.withParameters_unkeyed pairs
  rw [same, read, reads, reads'] at read'
  exact (Option.some.inj read').symm

/-- Addresses that differ in the password are understood as options that differ in it. -/
theorem unkeyed_of_withPassword {user password password' : String} {u : Url} {o o' : Options}
    (accepted : ofUrl? user (u.withPassword password) = some o)
    (accepted' : ofUrl? user (u.withPassword password') = some o') : o'.unkeyed = o.unkeyed := by
  obtain ⟨host, name, secret, hostIs, nameIs, -, reads⟩ := bare_of_ofUrl? accepted
  obtain ⟨host', name', secret', hostIs', nameIs', -, reads'⟩ := bare_of_ofUrl? accepted'
  refine unkeyed_of_withParameters ?_ reads reads'
  obtain ⟨users, hosts, ports⟩ := u.place_withPassword password
  obtain ⟨users', hosts', ports'⟩ := u.place_withPassword password'
  rw [hosts] at hostIs
  rw [hosts'] at hostIs'
  rw [users] at nameIs
  rw [users'] at nameIs'
  obtain rfl := Option.some.inj (hostIs.symm.trans hostIs')
  obtain rfl := Option.some.inj (nameIs.symm.trans nameIs')
  unfold bare unkeyed
  rw [ports, ports']
  rfl

theorem withParameters_append (o : Options) (pairs pairs' : List (String × String)) :
    o.withParameters (pairs ++ pairs') = (o.withParameters pairs).bind (·.withParameters pairs') :=
  List.foldlM_append

theorem unkeyed_of_query {user query query' value value' : String} {u : Url} {o o' : Options}
    {pairs pairs' : List (String × String)} (read : Text.formPairs query = pairs ++ ("password", value) :: pairs')
    (read' : Text.formPairs query' = pairs ++ ("password", value') :: pairs')
    (accepted : ofUrl? user { u with query := some query } = some o)
    (accepted' : ofUrl? user { u with query := some query' } = some o') : o'.unkeyed = o.unkeyed := by
  have keyed (start : Options) (value : String) :
      start.withParameter "password" value = some { start with password := some value } := by simp [withParameter]
  obtain ⟨host, name, password, hostIs, nameIs, passwordIs, reads⟩ := bare_of_ofUrl? accepted
  obtain ⟨host', name', password', hostIs', nameIs', passwordIs', reads'⟩ := bare_of_ofUrl? accepted'
  obtain rfl := Option.some.inj (hostIs.symm.trans hostIs')
  obtain rfl := Option.some.inj (nameIs.symm.trans nameIs')
  obtain rfl := Option.some.inj (passwordIs.symm.trans passwordIs')
  rw [Option.getD_some, read, withParameters_append, Option.bind_eq_some_iff] at reads
  rw [Option.getD_some, read', withParameters_append, Option.bind_eq_some_iff] at reads'
  obtain ⟨next, before, after⟩ := reads
  obtain ⟨next', before', after'⟩ := reads'
  obtain rfl := Option.some.inj (before.symm.trans before')
  rw [withParameters_cons, keyed, Option.bind_some] at after after'
  have same : unkeyed { next with password := some value' } = unkeyed { next with password := some value } := rfl
  exact unkeyed_of_withParameters same after after'

/-- What the settings add to what the address says. -/
def timed (s : StoreSettings) (o : Options) : Options :=
  if 0 < s.statementTimeout then o.setVariable "statement_timeout" (Text.ofNat s.statementTimeout.toNat) else o

theorem unkeyed_timed {s : StoreSettings} {o o' : Options} (same : o'.unkeyed = o.unkeyed) :
    (timed s o').unkeyed = (timed s o).unkeyed := by
  have commutes (o : Options) : (timed s o).unkeyed = timed s o.unkeyed := by
    unfold timed
    split <;> rfl
  rw [commutes, commutes, same]

/-- Options come from an address that is read, with the time limits of the settings. -/
theorem ofSettings_eq_ok_iff {user address : String} {s : StoreSettings} {o : Options} :
    ofSettings user { s with url := some address } = .ok o ↔
      ∃ u said, Url.parse? address = some u ∧ ofUrl? user u = some said ∧ o = timed s said := by
  have outcome : ofSettings user { s with url := some address } =
      ((Url.parse? address).bind (ofUrl? user)).elim (.error .invalidUrl) fun said => .ok (timed s said) := by
    unfold ofSettings
    dsimp only
    cases (Url.parse? address).bind (ofUrl? user) <;> rfl
  rw [outcome]
  constructor
  · intro accepted
    cases read : (Url.parse? address).bind (ofUrl? user) with
    | none =>
      rw [read] at accepted
      cases accepted
    | some said =>
      rw [read] at accepted
      cases accepted
      obtain ⟨u, parsed, read⟩ := Option.bind_eq_some_iff.1 read
      exact ⟨u, said, parsed, read, rfl⟩
  · rintro ⟨u, said, parsed, read, rfl⟩
    rw [parsed, Option.bind_some, read]
    rfl

theorem accepted_of_isSome {user address : String}
    (read : ((Url.parse? address).bind (ofUrl? user)).isSome) (s : StoreSettings) :
    ∃ o, ofSettings user { s with url := some address } = .ok o := by
  obtain ⟨said, read⟩ := Option.isSome_iff_exists.1 read
  obtain ⟨u, parsed, read⟩ := Option.bind_eq_some_iff.1 read
  exact ⟨timed s said, ofSettings_eq_ok_iff.2 ⟨u, said, parsed, read, rfl⟩⟩

end Options

theorem redactedUrl_eq {address : String} {u : Url} (parsed : Url.parse? address = some u) (s : StoreSettings) :
    redactedUrl { s with url := some address } = some u.redacted.toText := by
  show (Url.parse? address).map (fun u => u.redacted.toText) = some u.redacted.toText
  rw [parsed, Option.map_some]

/-- The line tells of the settings nothing else than how an address is redacted. -/
theorem toText_eq_of_connectionLine {address address' : String} {u u' : Url} {s : StoreSettings}
    (parsed : Url.parse? address = some u) (parsed' : Url.parse? address' = some u')
    (same : connectionLine { s with url := some address' } = connectionLine { s with url := some address }) :
    u'.redacted.toText = u.redacted.toText := by
  unfold connectionLine at same
  rw [redactedUrl_eq parsed, redactedUrl_eq parsed', Option.getD_some, Option.getD_some, ← String.toList_inj] at same
  rw [← String.toList_inj]
  simpa using same

/-- The line is the same for every password in the user information. Passwords among the parameters it shows: it is the
same only if what the store is told is. -/
theorem redaction_of_rekeyed {user address address' : String} {s : StoreSettings} {o o' : Options}
    (accepted : Options.ofSettings user { s with url := some address } = .ok o)
    (accepted' : Options.ofSettings user { s with url := some address' } = .ok o') :
    (Rekeyed .userInformation address address' → o'.unkeyed = o.unkeyed ∧
      redactedUrl { s with url := some address' } = redactedUrl { s with url := some address } ∧
      connectionLine { s with url := some address' } = connectionLine { s with url := some address }) ∧
    (Rekeyed .parameter address address' → o'.unkeyed = o.unkeyed ∧
      (connectionLine { s with url := some address' } = connectionLine { s with url := some address } → o' = o)) := by
  obtain ⟨u, said, parsed, read, rfl⟩ := Options.ofSettings_eq_ok_iff.1 accepted
  obtain ⟨u', said', parsed', read', rfl⟩ := Options.ofSettings_eq_ok_iff.1 accepted'
  constructor
  · rintro ⟨front, secret, secret', back, carries, cleaned, cleaned', named, named', ends⟩
    have before : ∀ c ∈ secret ++ secret, c ∉ Carrier.userInformation.ends := by simp_all
    -- The address compared with itself: what is read of it is an address with its password.
    have first := Url.parse?_of_userInformation carries cleaned cleaned named named before
    have second := Url.parse?_of_userInformation carries cleaned cleaned' named named' ends
    rw [parsed, Option.map_some, Option.some.injEq] at first
    rw [parsed, parsed', Option.map_some, Option.some.injEq] at second
    have hidden : u'.redacted = u.redacted := calc
      u'.redacted = (u.withPassword (Url.escape Url.userReserved secret')).redacted := by rw [second]
      _ = (u.withPassword (Url.escape Url.userReserved secret)).redacted := u.redacted_withPassword _ _
      _ = u.redacted := by rw [← first]
    have line : redactedUrl { s with url := some address' } = redactedUrl { s with url := some address } := by
      rw [redactedUrl_eq parsed, redactedUrl_eq parsed', hidden]
    rw [first] at read
    rw [second] at read'
    refine ⟨Options.unkeyed_timed (Options.unkeyed_of_withPassword read read'), line, ?_⟩
    unfold connectionLine
    rw [line]
  · rintro ⟨front, secret, secret', back, carries, cleaned, cleaned', -, -, ends⟩
    obtain ⟨query, query', pairs, pairs', value, value', first, second, pairs_eq, pairs_eq'⟩ :=
      Url.parse?_of_parameter carries cleaned cleaned' ends
    rw [parsed, Option.map_some, Option.some.injEq] at first
    rw [parsed, parsed', Option.map_some, Option.some.injEq] at second
    refine ⟨?_, fun same => ?_⟩
    · rw [first] at read
      rw [second] at read'
      exact Options.unkeyed_timed (Options.unkeyed_of_query pairs_eq pairs_eq' read read')
    · have redacted : u.redacted = { u.redacted with query := some query } := congrArg Url.redacted first
      have redacted' : u'.redacted = { u.redacted with query := some query' } := congrArg Url.redacted second
      have texts : u'.redacted.toText = u.redacted.toText := toText_eq_of_connectionLine parsed parsed' same
      have queries : query' = query := by
        refine Url.query_eq_of_toText (u := u.redacted) ?_
        rw [← redacted', ← redacted, texts]
      have addresses : u' = u := by rw [second, queries, ← first]
      rw [addresses, read] at read'
      rw [Option.some.inj read']

/-- An address with its password in the user information or in a parameter. -/
def Carrier.sample (password : String) : Carrier → String
  | userInformation => "postgres://storex:" ++ password ++ "@localhost:5432/storex"
  | parameter => "postgres://storex@localhost/storex?password=" ++ password

theorem rekeyed_sample (carrier : Carrier) : Rekeyed carrier (carrier.sample "hunter2") (carrier.sample "hunter3") := by
  cases carrier with
  | userInformation =>
    have carries : Carries .userInformation "postgres://storex:".toList "@localhost:5432/storex".toList :=
      .userInformation "postgres".toList "storex".toList "localhost:5432".toList "/storex".toList (by decide)
        (by simp) (by simp) (by simp)
    exact ⟨_, "hunter2".toList, "hunter3".toList, _, carries, by decide +kernel, by decide +kernel, by decide,
      by decide, by simp [Carrier.ends]⟩
  | parameter =>
    have carries : Carries .parameter "postgres://storex@localhost/storex?password=".toList "".toList :=
      .parameter "postgres".toList "//storex@localhost/storex".toList [] [] [] (by decide) (by simp) nofun
        nofun nofun nofun nofun
    exact ⟨_, "hunter2".toList, "hunter3".toList, _, carries, by decide +kernel, by decide +kernel, by decide,
      by decide, by simp [Carrier.ends]⟩

theorem accepted_sample (carrier : Carrier) (s : StoreSettings) :
    (∃ o, Options.ofSettings "storex" { s with url := some (carrier.sample "hunter2") } = .ok o) ∧
      ∃ o', Options.ofSettings "storex" { s with url := some (carrier.sample "hunter3") } = .ok o' := by
  cases carrier <;>
    exact ⟨Options.accepted_of_isSome (by decide +kernel) s, Options.accepted_of_isSome (by decide +kernel) s⟩

/-- Two passwords in the user information are logged alike, and in either place they are understood alike. -/
theorem hunters_redacted : ∃ (s : StoreSettings) (o₁ o₂ o₃ o₄ : Options),
    Options.ofSettings "storex" { s with url := some (Carrier.userInformation.sample "hunter2") } = .ok o₁ ∧
    Options.ofSettings "storex" { s with url := some (Carrier.userInformation.sample "hunter3") } = .ok o₂ ∧
    redactedUrl { s with url := some (Carrier.userInformation.sample "hunter3") } =
      redactedUrl { s with url := some (Carrier.userInformation.sample "hunter2") } ∧ o₂.unkeyed = o₁.unkeyed ∧
    Options.ofSettings "storex" { s with url := some (Carrier.parameter.sample "hunter2") } = .ok o₃ ∧
    Options.ofSettings "storex" { s with url := some (Carrier.parameter.sample "hunter3") } = .ok o₄ ∧
    o₄.unkeyed = o₃.unkeyed := by
  let s : StoreSettings := ⟨none, 2, 30, 500, false⟩
  obtain ⟨⟨o₁, first⟩, o₂, second⟩ := accepted_sample .userInformation s
  obtain ⟨⟨o₃, third⟩, o₄, fourth⟩ := accepted_sample .parameter s
  obtain ⟨same, line, -⟩ := (redaction_of_rekeyed first second).1 (rekeyed_sample _)
  obtain ⟨same', -⟩ := (redaction_of_rekeyed third fourth).2 (rekeyed_sample _)
  exact ⟨s, o₁, o₂, o₃, o₄, first, second, line, same, third, fourth, same'⟩

/-- A password among the parameters is logged as it is. -/
theorem redaction_breaks : ¬∀ (carrier : Carrier) (user address address' : String) (s : StoreSettings) (o o' : Options),
    Options.ofSettings user { s with url := some address } = .ok o →
    Options.ofSettings user { s with url := some address' } = .ok o' → Rekeyed carrier address address' →
    redactedUrl { s with url := some address' } = redactedUrl { s with url := some address } := by
  intro hidden
  let s : StoreSettings := ⟨none, 2, 30, 500, false⟩
  obtain ⟨⟨o, accepted⟩, o', accepted'⟩ := accepted_sample .parameter s
  have same := hidden .parameter "storex" _ _ s o o' accepted accepted' (rekeyed_sample .parameter)
  have shown : redactedUrl { s with url := some (Carrier.parameter.sample "hunter3") } ≠
      redactedUrl { s with url := some (Carrier.parameter.sample "hunter2") } := by decide +kernel
  exact shown same

end AssetRegistry.Connection

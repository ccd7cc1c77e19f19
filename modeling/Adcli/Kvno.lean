/-
How `retrieve_computer_account_info` reads the account back after the password change:
it caches the account's attributes and, when no kvno was set, takes the account's
`msDS-KeyVersionNumber` through `strtoul (value, &end, 10)`, refusing the value only when
characters follow the number. That `strtoul` skips leading white space, takes a sign,
wraps a negative number around, saturates past `ULONG_MAX`, and reads a string with no
digit as `0` with `end` at its start, so that the empty string passes; and the
`unsigned long` it returns is narrowed to the 32-bit `krb5_kvno`. The values accepted
are therefore more than the decimal numbers below `2 ^ 32`, and some of them are stored
as another number.
-/
import Adcli.Context

namespace Adcli

/-! ## `strtoul` -/

/-- Whether `isspace` holds of a character in the C locale. -/
def isSpace (c : Char) : Bool :=
  c == ' ' || c == '\t' || c == '\n' || c == '\x0b' || c == '\x0c' || c == '\r'

/-- `ULONG_MAX`, for the 64-bit `unsigned long` of the LP64 platforms. -/
def ulongMax : Nat := 2 ^ 64 - 1

/-- The value of a string of decimal digits. -/
def decValue (ds : List Char) : Nat :=
  ds.foldl (fun n d => 10 * n + (d.toNat - '0'.toNat)) 0

/-- The sign `strtoul` reads, whether it is a minus, and what follows it. -/
def strtoulSign : List Char → Bool × List Char
  | '-' :: u => (true, u)
  | '+' :: u => (false, u)
  | u => (false, u)

/-- The call `strtoul (s, &end, 10)` of glibc: the `unsigned long` it returns, and the
characters from `end` on. With no digit after the white space and the sign, `end` is `s`
itself and the value `0`; past `ULONG_MAX` the value is `ULONG_MAX`; a minus negates
modulo `2 ^ 64`. -/
def strtoul (s : List Char) : Nat × List Char :=
  let (negative, u) := strtoulSign (s.dropWhile isSpace)
  let ds := u.takeWhile Char.isDigit
  if ds.isEmpty then (0, s)
  else
    let n := decValue ds
    (if ulongMax < n then ulongMax else if negative then (2 ^ 64 - n) % 2 ^ 64 else n,
      u.dropWhile Char.isDigit)

/-! ## Reading the account back -/

/-- The attributes `retrieve_computer_account_info` reads. -/
def accountInfoAttrs : List String :=
  ["msDS-KeyVersionNumber", "msDS-supportedEncryptionTypes", "dNSHostName", "servicePrincipalName"]

/-- The function `retrieve_computer_account_info`: cache the account's attributes and,
when no kvno is set, take the account's, `strtoul`'s value narrowed to `krb5_kvno`, unless
characters follow the number; `0` when the attribute is missing. `none` is one of its
`assert`s failing (`computer_dn` set, `computer_attributes` unset). -/
def retrieveComputerAccountInfo (env : Env) (log : List Write) (e : Enroll) :
    Option (AdcliResult × Enroll) :=
  match e.computerDn with
  | none => none
  | some dn =>
    if e.computerAttributes.isSome then none
    else
      let r := env.search log dn "(objectClass=*)" accountInfoAttrs
      let e := { e with computerAttributes := some r }
      if r.code ≠ ldapSuccess then some (ldapHandleFailure .errDirectory, e)
      else if e.kvno ≠ 0 then some (.success, e)
      else
        match r.parseValue "msDS-KeyVersionNumber" with
        | none => some (.success, { e with kvno := 0 })
        | some value =>
          let (kvno, rest) := strtoul value.data
          if rest ≠ [] then some (.errDirectory, e)
          else some (.success, { e with kvno := kvno.toUInt32 })

/-! ## What `strtoul` accepts -/

theorem isSpace_eq_false_of_isDigit {c : Char} (h : c.isDigit = true) : isSpace c = false := by
  simp only [isSpace, Bool.or_eq_false_iff, beq_eq_false_iff_ne]
  refine ⟨⟨⟨⟨⟨?_, ?_⟩, ?_⟩, ?_⟩, ?_⟩, ?_⟩ <;> rintro rfl <;> exact absurd h (by decide)

/-- A string of digits signed at most once: what `strtoul` reads to its end. -/
theorem strtoulSign_append {sign ds : List Char} (hsign : sign = [] ∨ sign = ['+'] ∨ sign = ['-'])
    (hds : ∀ c ∈ ds.head?, c.isDigit = true) :
    strtoulSign (sign ++ ds) = (decide (sign = ['-']), ds) := by
  rcases hsign with rfl | rfl | rfl
  · match ds, hds with
    | [], _ => rfl
    | d :: ds, hd =>
      have hd : d.isDigit = true := hd d rfl
      have h1 : d ≠ '-' := by rintro rfl; exact absurd hd (by decide)
      have h2 : d ≠ '+' := by rintro rfl; exact absurd hd (by decide)
      simp [strtoulSign, h1, h2]
  · rfl
  · rfl

/-- `strtoul` on white space, at most one sign and a non-empty run of decimal digits: it
reads to the end, and returns the digits' value, saturated at `ULONG_MAX` and negated
modulo `2 ^ 64` after a minus. -/
theorem strtoul_numeral {ws sign ds : List Char} (hws : ∀ c ∈ ws, isSpace c = true)
    (hsign : sign = [] ∨ sign = ['+'] ∨ sign = ['-']) (hne : ds ≠ []) (hdig : ∀ c ∈ ds, c.isDigit = true) :
    strtoul (ws ++ sign ++ ds) =
      (if ulongMax < decValue ds then ulongMax
        else if sign = ['-'] then (2 ^ 64 - decValue ds) % 2 ^ 64 else decValue ds, []) := by
  have hhead : ∀ c ∈ (sign ++ ds).head?, isSpace c = false := by
    rcases hsign with rfl | rfl | rfl
    · obtain ⟨d, ds, rfl⟩ := List.exists_cons_of_ne_nil hne
      simpa using isSpace_eq_false_of_isDigit (hdig d (List.mem_cons_self _ _))
    all_goals simp [isSpace]
  have hdrop : (ws ++ sign ++ ds).dropWhile isSpace = sign ++ ds := by
    rw [List.append_assoc, List.dropWhile_append, if_pos (by simpa using hws)]
    match sign ++ ds, hhead with
    | [], _ => rfl
    | c :: l, h => simp [List.dropWhile_cons, h c rfl]
  have hd : ∀ c ∈ ds.head?, c.isDigit = true := fun c hc => hdig c (List.mem_of_mem_head? hc)
  simp only [strtoul, hdrop, strtoulSign_append hsign hd, List.takeWhile_eq_self_iff.mpr hdig,
    List.isEmpty_iff, hne, if_false, List.dropWhile_eq_nil_iff.mpr hdig, decide_eq_true_eq]

/-- **What `strtoul` reads to the end.** `*end == NUL` holds exactly for the empty string
and for white space, at most one sign, and a non-empty run of decimal digits. -/
theorem strtoul_rest_eq_nil (s : List Char) :
    (strtoul s).2 = [] ↔ s = [] ∨ ∃ ws sign ds, s = ws ++ sign ++ ds ∧ (∀ c ∈ ws, isSpace c = true) ∧
      (sign = [] ∨ sign = ['+'] ∨ sign = ['-']) ∧ ds ≠ [] ∧ ∀ c ∈ ds, c.isDigit = true := by
  constructor
  · have hs := List.takeWhile_append_dropWhile isSpace s
    simp only [strtoul]
    generalize s.dropWhile isSpace = t at hs ⊢
    obtain ⟨sign, hsign, ht⟩ : ∃ sign, (sign = [] ∨ sign = ['+'] ∨ sign = ['-']) ∧
        t = sign ++ (strtoulSign t).2 := by
      unfold strtoulSign; split
      · exact ⟨['-'], by simp⟩
      · exact ⟨['+'], by simp⟩
      · exact ⟨[], by simp⟩
    generalize strtoulSign t = p at ht ⊢
    obtain ⟨negative, u⟩ := p
    dsimp only at ht ⊢
    by_cases hds : (u.takeWhile Char.isDigit).isEmpty = true <;>
      simp only [hds, if_true, if_false, Bool.false_eq_true]
    · exact fun h => .inl h
    · intro hu
      refine .inr ⟨_, sign, u, by rw [← hs, ht, List.append_assoc], fun c hc => List.mem_takeWhile_imp hc,
        hsign, ?_, List.dropWhile_eq_nil_iff.mp hu⟩
      rintro rfl
      exact hds rfl
  · rintro (rfl | ⟨ws, sign, ds, rfl, hws, hsign, hne, hdig⟩)
    · rfl
    · rw [strtoul_numeral hws hsign hne hdig]

/-! ## The kvno the account gives -/

/-- `retrieve_computer_account_info` on a value `v` of `msDS-KeyVersionNumber`, entered as
`adcli_enroll_join` enters it: it caches the attributes, succeeds exactly when `strtoul`
reads `v` to the end, and then stores `strtoul`'s value modulo `2 ^ 32`; otherwise it is a
directory failure. -/
theorem retrieveComputerAccountInfo_value {env : Env} {log : List Write} {e : Enroll} {dn v : String}
    (hdn : e.computerDn = some dn) (hattrs : e.computerAttributes = none) (hkvno : e.kvno = 0)
    (hcode : (env.search log dn "(objectClass=*)" accountInfoAttrs).code = ldapSuccess)
    (hv : (env.search log dn "(objectClass=*)" accountInfoAttrs).parseValue "msDS-KeyVersionNumber" = some v) :
    ∃ res e', retrieveComputerAccountInfo env log e = some (res, e') ∧
      e'.computerAttributes = some (env.search log dn "(objectClass=*)" accountInfoAttrs) ∧
      (res = .success ↔ (strtoul v.data).2 = []) ∧
      (res = .success → e'.kvno.toNat = (strtoul v.data).1 % 2 ^ 32) ∧
      (res ≠ .success → res = .errDirectory) := by
  simp only [retrieveComputerAccountInfo, hdn, hattrs, Option.isSome_none, Bool.false_eq_true,
    if_false, hcode, ne_eq, not_true_eq_false, hkvno, not_false_eq_true, hv]
  split_ifs with hrest
  · exact ⟨_, _, rfl, rfl, by simp [hrest], fun _ => rfl, fun h => absurd rfl h⟩
  · exact ⟨_, _, rfl, rfl, by simp [hrest], fun h => absurd h (by decide), fun _ => rfl⟩

/-- **The kvno values `retrieve_computer_account_info` accepts.** Entered as
`adcli_enroll_join` enters it, with the account's attributes read, it accepts a value of
`msDS-KeyVersionNumber` exactly when the value is empty, or white space, at most one sign
and a non-empty run of decimal digits; any other value is a directory failure. On a
non-empty decimal numeral below `2 ^ 32` it stores exactly the numeral's value. -/
theorem retrieveComputerAccountInfo_accepts {env : Env} {log : List Write} {e : Enroll} {dn v : String}
    (hdn : e.computerDn = some dn) (hattrs : e.computerAttributes = none) (hkvno : e.kvno = 0)
    (hcode : (env.search log dn "(objectClass=*)" accountInfoAttrs).code = ldapSuccess)
    (hv : (env.search log dn "(objectClass=*)" accountInfoAttrs).parseValue "msDS-KeyVersionNumber" = some v) :
    ∃ res e', retrieveComputerAccountInfo env log e = some (res, e') ∧
      (res = .success ↔ v.data = [] ∨ ∃ ws sign ds, v.data = ws ++ sign ++ ds ∧
        (∀ c ∈ ws, isSpace c = true) ∧ (sign = [] ∨ sign = ['+'] ∨ sign = ['-']) ∧ ds ≠ [] ∧
        ∀ c ∈ ds, c.isDigit = true) ∧
      (res ≠ .success → res = .errDirectory) ∧
      (v.data ≠ [] → (∀ c ∈ v.data, c.isDigit = true) → decValue v.data < 2 ^ 32 →
        res = .success ∧ e'.kvno.toNat = decValue v.data) := by
  obtain ⟨res, e', h, -, hres, hval, herr⟩ := retrieveComputerAccountInfo_value hdn hattrs hkvno hcode hv
  refine ⟨res, e', h, hres.trans (strtoul_rest_eq_nil _), herr, fun hne hdig hlt => ?_⟩
  have hnum := @strtoul_numeral [] [] _ (fun _ h => absurd h (List.not_mem_nil _)) (.inl rfl) hne hdig
  rw [List.nil_append, List.nil_append] at hnum
  have hsmall : ¬ ulongMax < decValue v.data := by unfold ulongMax; omega
  rw [if_neg hsmall, if_neg (List.cons_ne_nil _ _).symm] at hnum
  have hok : res = .success := hres.mpr (by rw [hnum])
  refine ⟨hok, ?_⟩
  rw [hval hok, hnum, Nat.mod_eq_of_lt hlt]

/-- `sampleEnv`'s account holds kvno `2`, which is read as `2`. -/
theorem retrieveComputerAccountInfo_accepts_two :
    ∃ e', retrieveComputerAccountInfo sampleEnv []
        { computerDn := some "CN=HOST01,CN=Computers,DC=corp,DC=example,DC=com" } = some (.success, e') ∧
      e'.kvno.toNat = 2 := by
  obtain ⟨res, e', h, -, -, hnum⟩ := @retrieveComputerAccountInfo_accepts sampleEnv []
    { computerDn := some "CN=HOST01,CN=Computers,DC=corp,DC=example,DC=com" } _ "2" rfl rfl rfl rfl rfl
  obtain ⟨rfl, hk⟩ := hnum (by decide) (by decide) (by decide)
  exact ⟨e', h, hk⟩

/-- `sampleEnv` with the account's `msDS-KeyVersionNumber` holding `v`. -/
def sampleEnvWithKvno (v : String) : Env :=
  { sampleEnv with
    search := fun log base filter attrs =>
      let r := sampleEnv.search log base filter attrs
      { r with entry := r.entry.map fun en =>
          { en with values := fun a => if a == "msDS-KeyVersionNumber" then some [v] else en.values a } } }

/-- The kvno attribute read as the empty string, as `-1`, as ` 7` and as `4294967296`: each
passes, and the kvno stored is `0`, `4294967295`, `7` and `0`. -/
theorem retrieveComputerAccountInfo_non_numerals :
    (retrieveComputerAccountInfo (sampleEnvWithKvno "") []
        { computerDn := some "CN=HOST01,CN=Computers,DC=corp,DC=example,DC=com" }).map
      (fun r => (r.1, r.2.kvno)) = some (.success, 0) ∧
    (retrieveComputerAccountInfo (sampleEnvWithKvno "-1") []
        { computerDn := some "CN=HOST01,CN=Computers,DC=corp,DC=example,DC=com" }).map
      (fun r => (r.1, r.2.kvno)) = some (.success, 4294967295) ∧
    (retrieveComputerAccountInfo (sampleEnvWithKvno " 7") []
        { computerDn := some "CN=HOST01,CN=Computers,DC=corp,DC=example,DC=com" }).map
      (fun r => (r.1, r.2.kvno)) = some (.success, 7) ∧
    (retrieveComputerAccountInfo (sampleEnvWithKvno "4294967296") []
        { computerDn := some "CN=HOST01,CN=Computers,DC=corp,DC=example,DC=com" }).map
      (fun r => (r.1, r.2.kvno)) = some (.success, 0) := by
  decide

end Adcli

/-
`adcli_enroll_prepare` and the `ensure_*` stages it chains. Each stage takes the running
result and returns it at once when it is a failure, except `ensure_computer_sam`, which
never reads it, and `ensure_service_principals`, whose `assert`s come before the test.
-/
import Adcli.Context
import Adcli.Password

namespace Adcli

/-- The flags `adcli_enroll_flags`: `ADCLI_ENROLL_NO_KEYTAB`, `ADCLI_ENROLL_ALLOW_OVERWRITE`. -/
structure Flags where
  noKeytab : Bool := false
  allowOverwrite : Bool := false
  deriving DecidableEq, Repr

/-- The stage `ensure_host_fqdn`: by default, the host name the connection discovered. -/
def ensureHostFqdn (env : Env) (res : AdcliResult) (e : Enroll) : AdcliResult × Enroll :=
  if res ≠ .success then (res, e)
  else if e.hostFqdn.isSome then (.success, e)
  else if e.hostFqdnExplicit then (.success, e)
  else (.success, { e with hostFqdn := env.hostFqdn })

/-- The stage `ensure_computer_name`: "the FQDN minus the last part", upper-cased; with
`dom = strchr (host_fqdn, '.')` it fails "if no dot, or dot is first or last". -/
def ensureComputerName (res : AdcliResult) (e : Enroll) : AdcliResult × Enroll :=
  if res ≠ .success then (res, e)
  else if e.computerName.isSome then (.success, e)
  else match e.hostFqdn with
    | none => (.errConfig, e)
    | some fqdn =>
      match fqdn.data.indexOf? '.' with
      | none => (.errConfig, e)
      | some dom =>
        if dom = 0 ∨ dom + 1 = fqdn.length then (.errConfig, e)
        else (.success, { e with computerName := some (strUp ⟨fqdn.data.take dom⟩) })

/-- The stage `ensure_computer_sam`: `"%s$"` of the computer name, parsed as a principal
of the connection's realm. It never reads the running result `_res`. -/
def ensureComputerSam (env : Env) (_res : AdcliResult) (e : Enroll) : AdcliResult × Enroll :=
  let sam := cstr e.computerName ++ "$"
  match env.parseName sam with
  | none => (.errUnexpected, { e with computerSam := some sam, computerPrincipal := none })
  | some p =>
    (.success, { e with computerSam := some sam,
                        computerPrincipal := some (p.setRealm env.domainRealm) })

/-- The length `const int length = 120` of a generated password. -/
def generatedPasswordLength : Nat := 120

/-- The stage `ensure_computer_password`: the reset password of the computer name, or a
generated one; `none` is `assert (enroll->computer_name != NULL)` failing (or the
generator's `assert`). It also gives what is left of the random source. -/
def ensureComputerPassword (env : Env) (res : AdcliResult) (e : Enroll) (random : List UInt8) :
    Option (AdcliResult × Enroll × List UInt8) :=
  if res ≠ .success then some (res, e, random)
  else if e.computerPassword.isSome then some (.success, e, random)
  else if e.resetPassword then
    match e.computerName with
    | none => none
    | some name => some (.success, { e with computerPassword := some (env.calcResetPassword name) }, random)
  else
    match generateHostPassword env.charSigned generatedPasswordLength (fun _ => 0) random with
    | none => none
    | some (none, rest) => some (.errUnexpected, e, rest)
    | some (some password, rest) => some (.success, { e with computerPassword := some (cString password) }, rest)

/-- The stage `ensure_host_keytab`: resolve the keytab's name, or open the default one and
take its name. -/
def ensureHostKeytab (env : Env) (res : AdcliResult) (e : Enroll) (keytab : List KeytabEntry) :
    AdcliResult × Enroll :=
  if res ≠ .success then (res, e)
  else if e.keytab.isSome then (.success, e)
  else match e.keytabName with
    | some name => if env.ktResolve keytab name then (.success, { e with keytab := some name }) else (.errFail, e)
    | none =>
      match env.ktDefault keytab with
      | none => (.errFail, e)
      | some name => (.success, { e with keytab := some name, keytabName := some name, keytabNameIsKrb5 := true })

/-- The service names `ensure_service_names` sets by default, "the default ones specified by MS". -/
def defaultServiceNames : List String := ["HOST", "RestrictedKrbHost"]

/-- The stage `ensure_service_names`. -/
def ensureServiceNames (res : AdcliResult) (e : Enroll) : AdcliResult × Enroll :=
  if res ≠ .success then (res, e)
  else if e.serviceNames.isSome then (.success, e)
  else (.success, { e with serviceNames := strvAdd (strvAdd none "HOST") "RestrictedKrbHost" })

/-- One turn of the first loop of `ensure_service_principals`: `"%s/%s"` of the service
name and the computer name, then of it and the FQDN when there is one. -/
def addServicePrincipals (computerName hostFqdn : Option String) (sps : Option (List String))
    (name : String) : Option (List String) :=
  let sps := strvAdd sps (name ++ "/" ++ cstr computerName)
  match hostFqdn with
  | some fqdn => strvAdd sps (name ++ "/" ++ fqdn)
  | none => sps

/-- The first loop of `ensure_service_principals`, on a vector that starts `NULL`. -/
def servicePrincipalsOf (names : List String) (computerName hostFqdn : Option String) :
    Option (List String) :=
  names.foldl (addServicePrincipals computerName hostFqdn) none

/-- The second loop of `ensure_service_principals`: service principal `i` is parsed into
slot `i + 1` of the array and put in the connection's realm; `false` when one does not
parse, with the array as filled so far. -/
def parseServicePrincipals (env : Env) : Nat → List String → List (Option Principal) →
    Bool × List (Option Principal)
  | _, [], arr => (true, arr)
  | i, sp :: sps, arr =>
    match env.parseName sp with
    | none => (false, arr)
    | some p => parseServicePrincipals env (i + 1) sps (arr.set (i + 1) (some (p.setRealm env.domainRealm)))

/-- The second half of `ensure_service_principals`, "prepare the principals we're going
to add to the keytab": a `calloc`ed array of `count + 2` slots, the computer principal in
slot `0`, the service principals after it. `none` is `krb5_copy_principal` reading a
`NULL` computer principal. -/
def prepareKeytabPrincipals (env : Env) (e : Enroll) : Option (AdcliResult × Enroll) :=
  match e.servicePrincipals with
  | none => some (.errUnexpected, e)
  | some sps =>
    match e.computerPrincipal with
    | none => none
    | some cp =>
      let r := parseServicePrincipals env 0 sps ((List.replicate (sps.length + 2) none).set 0 (some cp))
      some (if r.1 then .success else .errConfig, { e with keytabPrincipals := some r.2 })

/-- The service principals of `ensure_service_principals`: the context's, or when it has
none (`if (!enroll->service_principals)`), those its first loop derives. -/
def servicePrincipalsOrOf (servicePrincipals serviceNames : Option (List String))
    (computerName hostFqdn : Option String) : Option (List String) :=
  servicePrincipals.or (servicePrincipalsOf (serviceNames.getD []) computerName hostFqdn)

/-- The stage `ensure_service_principals`. `none` is one of its `assert`s failing
(`service_names` set, `keytab_principals` unset), which come before the test of `res`. -/
def ensureServicePrincipals (env : Env) (res : AdcliResult) (e : Enroll) :
    Option (AdcliResult × Enroll) :=
  if e.serviceNames.isNone ∨ e.keytabPrincipals.isSome then none
  else if res ≠ .success then some (res, e)
  else
    let sps := servicePrincipalsOrOf e.servicePrincipals e.serviceNames e.computerName e.hostFqdn
    prepareKeytabPrincipals env { e with servicePrincipals := sps }

/-- The function `adcli_enroll_prepare`: the stages in order, the running result passed
from each to the next; `none` when an `assert` fails. -/
def adcliEnrollPrepare (env : Env) (flags : Flags) (e : Enroll) (w : World) :
    Option (AdcliResult × Enroll × World) := do
  let (res, e) := ensureHostFqdn env .success e
  let (res, e) := ensureComputerName res e
  let (res, e) := ensureComputerSam env res e
  let (res, e, random) ← ensureComputerPassword env res e w.random
  let (res, e) := if flags.noKeytab then (res, e) else ensureHostKeytab env res e w.keytab
  let (res, e) := ensureServiceNames res e
  let (res, e) ← ensureServicePrincipals env res e
  return (res, e, { w with random })

/-! ## The stages -/

section Stages

variable (env : Env) (e : Enroll)

theorem ensureHostFqdn_fail {res : AdcliResult} (h : res ≠ .success) :
    ensureHostFqdn env res e = (res, e) := if_pos h

theorem ensureComputerName_fail {res : AdcliResult} (h : res ≠ .success) :
    ensureComputerName res e = (res, e) := if_pos h

theorem ensureComputerPassword_fail {res : AdcliResult} (random : List UInt8) (h : res ≠ .success) :
    ensureComputerPassword env res e random = some (res, e, random) := if_pos h

theorem ensureHostKeytab_fail {res : AdcliResult} (keytab : List KeytabEntry) (h : res ≠ .success) :
    ensureHostKeytab env res e keytab = (res, e) := if_pos h

theorem ensureServiceNames_fail {res : AdcliResult} (h : res ≠ .success) :
    ensureServiceNames res e = (res, e) := if_pos h

/-- What each stage may change, whatever it returns: `ensure_host_fqdn` sets only the FQDN. -/
theorem ensureHostFqdn_frame (res : AdcliResult) :
    ∃ f, (ensureHostFqdn env res e).2 = { e with hostFqdn := f } := by
  unfold ensureHostFqdn
  split_ifs
  all_goals exact ⟨_, rfl⟩

/-- `ensure_computer_sam` sets only the SAM name and the computer principal. -/
theorem ensureComputerSam_frame (res : AdcliResult) :
    ∃ s p, (ensureComputerSam env res e).2 = { e with computerSam := s, computerPrincipal := p } := by
  unfold ensureComputerSam
  dsimp only
  split <;> exact ⟨_, _, rfl⟩

/-- `ensure_computer_password` sets only the password, and only when none is set. -/
theorem ensureComputerPassword_frame {res r : AdcliResult} {e' : Enroll} {random rest : List UInt8}
    (h : ensureComputerPassword env res e random = some (r, e', rest)) :
    ∃ pw, e' = { e with computerPassword := pw } ∧ (e.computerPassword.isSome → pw = e.computerPassword) := by
  unfold ensureComputerPassword at h
  split_ifs at h with h1 h2
  · cases h; exact ⟨_, rfl, fun _ => rfl⟩
  · cases h; exact ⟨_, rfl, fun _ => rfl⟩
  all_goals
    refine (?_ : ∃ pw, e' = { e with computerPassword := pw }).imp fun _ h => ⟨h, fun h' => absurd h' h2⟩
    repeat' split at h
    all_goals simp only [Option.some.injEq, Prod.mk.injEq, reduceCtorEq, false_and] at h
    all_goals exact ⟨_, h.2.1.symm⟩

/-- `ensure_host_keytab` sets only the open keytab and its name. -/
theorem ensureHostKeytab_frame (res : AdcliResult) (keytab : List KeytabEntry) :
    ∃ k n b, (ensureHostKeytab env res e keytab).2 =
      { e with keytab := k, keytabName := n, keytabNameIsKrb5 := b } := by
  unfold ensureHostKeytab
  split_ifs
  all_goals try exact ⟨_, _, _, rfl⟩
  all_goals split
  all_goals try split_ifs
  all_goals try split
  all_goals exact ⟨_, _, _, rfl⟩

/-- `ensure_service_names` sets only the service names. -/
theorem ensureServiceNames_frame (res : AdcliResult) :
    ∃ s, (ensureServiceNames res e).2 = { e with serviceNames := s } := by
  unfold ensureServiceNames
  split_ifs <;> exact ⟨_, rfl⟩

/-- `ensure_service_principals` sets only the service principals, when none are set,
and the keytab principals. -/
theorem ensureServicePrincipals_frame {res r : AdcliResult} {e' : Enroll}
    (h : ensureServicePrincipals env res e = some (r, e')) :
    ∃ sps kps, e' = { e with servicePrincipals := sps, keytabPrincipals := kps } ∧
      (e.servicePrincipals.isSome → sps = e.servicePrincipals) := by
  unfold ensureServicePrincipals at h
  split_ifs at h
  · cases h; exact ⟨_, _, rfl, fun _ => rfl⟩
  · unfold prepareKeytabPrincipals at h
    dsimp only at h
    split at h
    · cases h
      exact ⟨_, _, rfl, fun hs => by obtain ⟨s, hs⟩ := Option.isSome_iff_exists.mp hs; simp [servicePrincipalsOrOf, hs]⟩
    · split at h
      · cases h
      · cases h
        exact ⟨_, _, rfl, fun hs => by obtain ⟨s, hs⟩ := Option.isSome_iff_exists.mp hs; simp [servicePrincipalsOrOf, hs]⟩

/-- The FQDN `ensure_host_fqdn` settles on: the context's, else (unless the caller set it
to `NULL`) the connection's. -/
def hostFqdnOf : Option String :=
  if e.hostFqdn.isSome then e.hostFqdn else if e.hostFqdnExplicit then none else env.hostFqdn

theorem ensureHostFqdn_success :
    ensureHostFqdn env .success e = (.success, { e with hostFqdn := hostFqdnOf env e }) := by
  unfold ensureHostFqdn hostFqdnOf
  rcases e with ⟨_ | f⟩ <;> split_ifs <;> simp_all

theorem ensureComputerName_frame (res : AdcliResult) :
    ∃ n, (ensureComputerName res e).2 = { e with computerName := n } := by
  unfold ensureComputerName
  split_ifs
  · exact ⟨e.computerName, rfl⟩
  · exact ⟨e.computerName, rfl⟩
  · split
    · exact ⟨e.computerName, rfl⟩
    · split
      · exact ⟨e.computerName, rfl⟩
      · split_ifs
        · exact ⟨e.computerName, rfl⟩
        · exact ⟨_, rfl⟩

/-- A failed `ensure_computer_name` leaves the context as it was; passed a success, it
fails only when no computer name is set. -/
theorem ensureComputerName_not_success {res : AdcliResult} (h : (ensureComputerName res e).1 ≠ .success) :
    (ensureComputerName res e).2 = e ∧ (res = .success → e.computerName = none) := by
  unfold ensureComputerName at h ⊢
  split_ifs at h ⊢ with h1 h2
  · exact ⟨rfl, fun h' => absurd h' h1⟩
  · exact absurd rfl h
  · refine ⟨?_, fun _ => by simpa using h2⟩
    split
    · rfl
    · split
      · rfl
      · split_ifs
        · rfl
        · simp_all

theorem indexOf?_append_cons {c : Char} : ∀ (pre post : List Char), c ∉ pre →
    (pre ++ c :: post).indexOf? c = some pre.length
  | [], post, _ => by simp [List.indexOf?_cons]
  | a :: pre, post, h => by
    simp only [List.mem_cons, not_or] at h
    rw [List.cons_append, List.indexOf?_cons, if_neg (by simpa using Ne.symm h.1),
      indexOf?_append_cons pre post h.2]
    rfl

/-- What `strchr` finds: the first occurrence, with everything before it. -/
theorem indexOf?_split {c : Char} : ∀ {l : List Char} {k : Nat}, l.indexOf? c = some k →
    ∃ pre post, l = pre ++ c :: post ∧ c ∉ pre ∧ pre.length = k
  | [], k, h => by simp at h
  | a :: l, k, h => by
    rw [List.indexOf?_cons] at h
    split_ifs at h with ha
    · cases h
      exact ⟨[], l, by simpa using ha, by simp, rfl⟩
    · obtain ⟨k', hk', rfl⟩ := Option.map_eq_some'.mp h
      obtain ⟨pre, post, rfl, hc, rfl⟩ := indexOf?_split hk'
      exact ⟨a :: pre, post, rfl, by simpa [hc] using Ne.symm (by simpa using ha), rfl⟩

/-- **What `ensure_computer_name` derives.** With no computer name yet and an FQDN `f`, it
succeeds exactly when `f` has a dot whose first occurrence is neither its first nor its
last character, and then takes the part before that dot, upper-cased; otherwise it fails
with `ADCLI_ERR_CONFIG` and leaves the context as it was. -/
theorem ensureComputerName_fqdn {f : String} (hf : e.hostFqdn = some f)
    (hn : e.computerName = none) :
    (∀ pre post, f.data = pre ++ '.' :: post → '.' ∉ pre → pre ≠ [] → post ≠ [] →
      ensureComputerName .success e = (.success, { e with computerName := some (strUp ⟨pre⟩) })) ∧
    ((¬ ∃ pre post, f.data = pre ++ '.' :: post ∧ '.' ∉ pre ∧ pre ≠ [] ∧ post ≠ []) →
      ensureComputerName .success e = (.errConfig, e)) := by
  have hlen : f.length = f.data.length := rfl
  unfold ensureComputerName
  simp only [ne_eq, not_true_eq_false, if_false, hn, Option.isSome_none, Bool.false_eq_true, hf]
  constructor
  · intro pre post hsplit hdot hpre hpost
    rw [hsplit, indexOf?_append_cons pre post hdot]
    dsimp only
    rw [if_neg, List.take_left]
    rw [hlen, hsplit, List.length_append, List.length_cons]
    intro h
    rcases h with h | h
    · exact hpre (List.length_eq_zero.mp h)
    · exact hpost (List.length_eq_zero.mp (by omega))
  · intro hno
    cases hi : f.data.indexOf? '.' with
    | none => rfl
    | some dom =>
      obtain ⟨pre, post, hsplit, hdot, rfl⟩ := indexOf?_split hi
      dsimp only
      rw [if_pos]
      by_contra hne
      rw [hlen, hsplit, List.length_append, List.length_cons, not_or] at hne
      exact hno ⟨pre, post, hsplit, hdot, fun h => hne.1 (by simp [h]),
        fun h => hne.2 (by simp [h])⟩

theorem ensureComputerSam_success {res : AdcliResult} {e' : Enroll}
    (h : ensureComputerSam env res e = (.success, e')) :
    ∃ p, env.parseName (cstr e.computerName ++ "$") = some p ∧
      e' = { e with computerSam := some (cstr e.computerName ++ "$"),
                    computerPrincipal := some (p.setRealm env.domainRealm) } := by
  unfold ensureComputerSam at h
  dsimp only at h
  split at h
  · cases h
  · exact ⟨_, ‹_›, (Prod.mk.inj h).2.symm⟩

theorem ensureComputerPassword_success {res : AdcliResult} {e' : Enroll} {random rest : List UInt8}
    (h : ensureComputerPassword env res e random = some (.success, e', rest)) :
    res = .success ∧ ∃ pw, e' = { e with computerPassword := some pw } := by
  unfold ensureComputerPassword at h
  split_ifs at h with h1 h2
  · simp only [Option.some.injEq, Prod.mk.injEq] at h; exact absurd h.1 h1
  · obtain ⟨pw, hpw⟩ := Option.isSome_iff_exists.mp h2
    simp only [Option.some.injEq, Prod.mk.injEq] at h
    refine ⟨by simpa using h1, pw, ?_⟩
    rw [← h.2.1, ← hpw]
  all_goals
    refine ⟨by simpa using h1, ?_⟩
    repeat' split at h
    all_goals simp only [Option.some.injEq, Prod.mk.injEq, reduceCtorEq, false_and] at h
    all_goals exact ⟨_, h.2.1.symm⟩

theorem ensureHostKeytab_success {res : AdcliResult} {e' : Enroll} {keytab : List KeytabEntry}
    (h : ensureHostKeytab env res e keytab = (.success, e')) :
    res = .success ∧ ∃ k n b, e' = { e with keytab := k, keytabName := n, keytabNameIsKrb5 := b } := by
  unfold ensureHostKeytab at h
  split_ifs at h with h1
  · cases h; simp at h1
  · cases h; exact ⟨by simpa using h1, _, _, _, rfl⟩
  all_goals split at h <;> (try split_ifs at h) <;> (try split at h) <;> simp at h <;>
    (subst h; exact ⟨by simpa using h1, _, _, _, rfl⟩)

theorem ensureServiceNames_success {res : AdcliResult} {e' : Enroll}
    (h : ensureServiceNames res e = (.success, e')) :
    res = .success ∧ e' = { e with serviceNames := some (e.serviceNames.getD defaultServiceNames) } := by
  unfold ensureServiceNames at h
  split_ifs at h with h1 h2
  · cases h; simp at h1
  · cases h; obtain ⟨S, hS⟩ := Option.isSome_iff_exists.mp h2
    exact ⟨by simpa using h1, by cases e; simp_all⟩
  · cases h; exact ⟨by simpa using h1, by simp_all [defaultServiceNames, strvAdd]⟩

/-- The keytab stage as `adcli_enroll_prepare` runs it, skipped under `NO_KEYTAB`. -/
theorem ensureHostKeytab_if_success {flags : Flags} {res : AdcliResult} {e' : Enroll}
    {keytab : List KeytabEntry}
    (h : (if flags.noKeytab then (res, e) else ensureHostKeytab env res e keytab) = (.success, e')) :
    res = .success ∧ ∃ k n b, e' = { e with keytab := k, keytabName := n, keytabNameIsKrb5 := b } := by
  split_ifs at h
  · cases h; exact ⟨rfl, _, _, _, rfl⟩
  · exact ensureHostKeytab_success env e h

/-- The service principals of one service name: with the computer name, then with the
FQDN when there is one. -/
def servicePrincipalsFor (computerName hostFqdn : Option String) (name : String) : List String :=
  (name ++ "/" ++ cstr computerName) :: (hostFqdn.map (name ++ "/" ++ ·)).toList

theorem foldl_addServicePrincipals (computerName hostFqdn : Option String) :
    ∀ (names : List String) (acc : Option (List String)),
      names.foldl (addServicePrincipals computerName hostFqdn) acc =
        if names = [] then acc
        else some (acc.getD [] ++ names.flatMap (servicePrincipalsFor computerName hostFqdn))
  | [], _ => rfl
  | name :: names, acc => by
    have hstep : addServicePrincipals computerName hostFqdn acc name =
        some (acc.getD [] ++ servicePrincipalsFor computerName hostFqdn name) := by
      cases hostFqdn <;> simp [addServicePrincipals, servicePrincipalsFor, strvAdd]
    rw [List.foldl_cons, foldl_addServicePrincipals, hstep, if_neg (List.cons_ne_nil _ _)]
    by_cases h : names = [] <;> simp [h]

theorem servicePrincipalsOf_eq (names : List String) (computerName hostFqdn : Option String) :
    servicePrincipalsOf names computerName hostFqdn =
      if names = [] then none
      else some (names.flatMap (servicePrincipalsFor computerName hostFqdn)) := by
  rw [servicePrincipalsOf, foldl_addServicePrincipals]
  rfl

/-- The second loop fills the slots after `pre`, one per service principal, and leaves the
last slot `NULL`, when every service principal parses. -/
theorem parseServicePrincipals_eq : ∀ (sps : List String) (ps : List Principal)
    (pre : List (Option Principal)) (i : Nat), pre.length = i + 1 → sps.map env.parseName = ps.map some →
    parseServicePrincipals env i sps (pre ++ List.replicate (sps.length + 1) none) =
      (true, pre ++ ps.map (fun p => some (p.setRealm env.domainRealm)) ++ [none])
  | [], [], pre, _, _, _ => by simp [parseServicePrincipals]
  | sp :: sps, p :: ps, pre, i, hi, h => by
    simp only [List.map_cons, List.cons.injEq] at h
    have hset : (pre ++ List.replicate (sps.length + 2) none).set (i + 1)
        (some (p.setRealm env.domainRealm)) =
        (pre ++ [some (p.setRealm env.domainRealm)]) ++ List.replicate (sps.length + 1) none := by
      rw [List.set_append_right _ _ (by omega), hi, Nat.sub_self, List.replicate_succ,
        List.set_cons_zero, List.append_assoc, List.singleton_append]
    rw [List.length_cons, parseServicePrincipals, h.1]
    simp only
    rw [hset, parseServicePrincipals_eq sps ps _ (i + 1) (by simp [hi]) h.2]
    simp

theorem parseServicePrincipals_true : ∀ {sps : List String} {i : Nat}
    {arr arr' : List (Option Principal)}, parseServicePrincipals env i sps arr = (true, arr') →
    ∃ ps : List Principal, sps.map env.parseName = ps.map some
  | [], _, _, _, _ => ⟨[], rfl⟩
  | sp :: sps, i, arr, arr', h => by
    rw [parseServicePrincipals] at h
    cases hp : env.parseName sp with
    | none => rw [hp] at h; cases h
    | some p =>
      rw [hp] at h
      obtain ⟨ps, hps⟩ := parseServicePrincipals_true h
      exact ⟨p :: ps, by simp [hp, hps]⟩

theorem prepareKeytabPrincipals_success {e' : Enroll}
    (h : prepareKeytabPrincipals env e = some (.success, e')) :
    ∃ sps cp, ∃ ps : List Principal, e.servicePrincipals = some sps ∧ e.computerPrincipal = some cp ∧
      sps.map env.parseName = ps.map some ∧
      e' = { e with keytabPrincipals := some (some cp ::
        ps.map (fun p => some (p.setRealm env.domainRealm)) ++ [none]) } := by
  unfold prepareKeytabPrincipals at h
  split at h
  · simp at h
  rename_i sps hsps
  split at h
  · cases h
  rename_i cp hcp
  · simp only [Option.some.injEq, Prod.mk.injEq, ite_eq_left_iff, reduceCtorEq, imp_false,
      not_not] at h
    obtain ⟨hok, rfl⟩ := h
    obtain ⟨ps, hps⟩ := parseServicePrincipals_true env (Prod.ext hok rfl)
    refine ⟨sps, cp, ps, hsps, hcp, hps, ?_⟩
    rw [show (List.replicate (sps.length + 2) none).set 0 (some cp) =
      [some cp] ++ List.replicate (sps.length + 1) none from rfl,
      parseServicePrincipals_eq env sps ps [some cp] 0 rfl hps]
    rfl

theorem ensureServicePrincipals_success {res : AdcliResult} {e' : Enroll}
    (h : ensureServicePrincipals env res e = some (.success, e')) :
    res = .success ∧ e.serviceNames.isSome ∧ e.keytabPrincipals = none ∧
      prepareKeytabPrincipals env { e with servicePrincipals := (servicePrincipalsOrOf
        e.servicePrincipals e.serviceNames e.computerName e.hostFqdn) } = some (.success, e') := by
  unfold ensureServicePrincipals at h
  split_ifs at h with h1 h2
  · simp only [Option.some.injEq, Prod.mk.injEq] at h; exact absurd h.1 h2
  · simp only [not_or, Option.isNone_iff_eq_none, Option.isSome_iff_ne_none, not_not] at h1
    exact ⟨by simpa using h2, Option.isSome_iff_ne_none.mpr h1.1, h1.2, h⟩

end Stages

/-- The stages of a run of `adcli_enroll_prepare` that returns, one after the other. -/
theorem adcliEnrollPrepare_some {env : Env} {flags : Flags} {e e' : Enroll} {w w' : World}
    {r : AdcliResult} (h : adcliEnrollPrepare env flags e w = some (r, e', w')) :
    ∃ r2 e2 r3 e3 r4 e4 r5 e5 r6 e6 rest,
      ensureComputerName .success { e with hostFqdn := hostFqdnOf env e } = (r2, e2) ∧
      ensureComputerSam env r2 e2 = (r3, e3) ∧
      ensureComputerPassword env r3 e3 w.random = some (r4, e4, rest) ∧
      (if flags.noKeytab then (r4, e4) else ensureHostKeytab env r4 e4 w.keytab) = (r5, e5) ∧
      ensureServiceNames r5 e5 = (r6, e6) ∧
      ensureServicePrincipals env r6 e6 = some (r, e') ∧
      w' = { w with random := rest } := by
  simp only [adcliEnrollPrepare, ensureHostFqdn_success] at h
  generalize hA : ensureComputerName .success _ = A at h
  obtain ⟨r2, e2⟩ := A
  generalize hB : ensureComputerSam env r2 e2 = B at h
  obtain ⟨r3, e3⟩ := B
  simp only [Option.bind_eq_bind, Option.bind_eq_some] at h
  obtain ⟨⟨r4, e4, rest⟩, h4, ⟨r7, e7⟩, h7, hw⟩ := h
  generalize hC : (if flags.noKeytab = true then (r4, e4) else ensureHostKeytab env r4 e4 w.keytab) = C at h7
  obtain ⟨r5, e5⟩ := C
  generalize hD : ensureServiceNames r5 e5 = D at h7
  obtain ⟨r6, e6⟩ := D
  simp only [pure, Option.some.injEq, Prod.mk.injEq] at hw
  obtain ⟨rfl, rfl, rfl⟩ := hw
  refine ⟨r2, e2, r3, e3, r4, e4, r5, e5, r6, e6, rest, ?_, hB, h4, ?_, hD, h7, rfl⟩ <;>
    first | rfl | assumption

/-- What reaches `ensure_service_principals`: the context with at most the FQDN, the
computer name, the SAM name and principal, the password (only when none was set), the
open keytab and its name, and the service names changed. -/
theorem adcliEnrollPrepare_reaches {env : Env} {flags : Flags} {e e' : Enroll} {w w' : World}
    {r : AdcliResult} (h : adcliEnrollPrepare env flags e w = some (r, e', w')) :
    ∃ r6 e6, ensureServicePrincipals env r6 e6 = some (r, e') ∧
      ∃ f n s p pw k kn kb sn,
        e6 = { e with hostFqdn := f, computerName := n, computerSam := s, computerPrincipal := p,
                      computerPassword := pw, keytab := k, keytabName := kn, keytabNameIsKrb5 := kb,
                      serviceNames := sn } ∧
        (e.computerPassword.isSome → pw = e.computerPassword) := by
  obtain ⟨r2, e2, r3, e3, r4, e4, r5, e5, r6, e6, rest, hA, hB, h4, hC, hD, h7, -⟩ :=
    adcliEnrollPrepare_some h
  refine ⟨r6, e6, h7, ?_⟩
  obtain ⟨n, hn⟩ := ensureComputerName_frame { e with hostFqdn := hostFqdnOf env e } .success
  obtain ⟨s, p, hs⟩ := ensureComputerSam_frame env e2 r2
  obtain ⟨pw, rfl, hpw⟩ := ensureComputerPassword_frame env e3 h4
  obtain ⟨sn, hsn⟩ := ensureServiceNames_frame e5 r5
  rw [hA] at hn; rw [hB] at hs; rw [hD] at hsn
  dsimp only at hn hs hsn
  subst hn hs hsn
  split_ifs at hC
  · cases hC
    exact ⟨_, _, _, _, _, _, _, _, _, rfl, hpw⟩
  · obtain ⟨k, kn, kb, hk⟩ := ensureHostKeytab_frame env _ r4 w.keytab
    rw [hC] at hk
    dsimp only at hk
    subst hk
    exact ⟨_, _, _, _, _, _, _, _, _, rfl, hpw⟩

/-- **`adcli_enroll_prepare` writes nothing**: it sends nothing to the directory or the
KDC and leaves the keytab as it was, whatever it returns. -/
theorem adcliEnrollPrepare_world {env : Env} {flags : Flags} {e e' : Enroll} {w w' : World}
    {r : AdcliResult} (h : adcliEnrollPrepare env flags e w = some (r, e', w')) :
    w'.log = w.log ∧ w'.keytab = w.keytab := by
  obtain ⟨-, -, -, -, -, -, -, -, -, -, -, -, -, -, -, -, -, rfl⟩ := adcliEnrollPrepare_some h
  exact ⟨rfl, rfl⟩

/-- What a successful `adcli_enroll_prepare` leaves for the join: a password, a computer
principal and the keytab principals are set, and the DN and the cached attributes are
as they were. -/
theorem adcliEnrollPrepare_success_fields {env : Env} {flags : Flags} {e e' : Enroll} {w w' : World}
    (h : adcliEnrollPrepare env flags e w = some (.success, e', w')) :
    e'.computerPassword.isSome ∧ e'.computerPrincipal.isSome ∧ e'.keytabPrincipals.isSome ∧
      e'.computerDn = e.computerDn ∧ e'.computerAttributes = e.computerAttributes := by
  obtain ⟨r2, e2, r3, e3, r4, e4, r5, e5, r6, e6, rest, hA, hB, h4, hC, hD, h7, -⟩ :=
    adcliEnrollPrepare_some h
  obtain ⟨rfl, -, -, h7⟩ := ensureServicePrincipals_success env e6 h7
  obtain ⟨rfl, rfl⟩ := ensureServiceNames_success e5 hD
  obtain ⟨rfl, k, kn, kb, rfl⟩ := ensureHostKeytab_if_success env e4 hC
  obtain ⟨rfl, pw, rfl⟩ := ensureComputerPassword_success env e3 h4
  obtain ⟨p, -, rfl⟩ := ensureComputerSam_success env e2 hB
  obtain ⟨n, hn2⟩ := ensureComputerName_frame { e with hostFqdn := hostFqdnOf env e } .success
  rw [hA] at hn2
  dsimp only at hn2
  subst hn2
  obtain ⟨sps, cp, ps, -, hcp, -, rfl⟩ := prepareKeytabPrincipals_success env _ h7
  exact ⟨rfl, Option.isSome_iff_exists.mpr ⟨cp, hcp⟩, rfl, rfl, rfl⟩

/-- **A failed computer name does not stop `adcli_enroll_prepare`.** `ensure_computer_sam`
never reads the result it is passed, so when `ensure_computer_name` has failed it builds
the SAM name from a `NULL` name, and the stages after it run on: a prepare that returns
success then has no computer name and the SAM name `"(null)$"`. -/
theorem adcliEnrollPrepare_null_sam {env : Env} {flags : Flags} {e e' : Enroll} {w w' : World}
    (hname : (ensureComputerName .success { e with hostFqdn := hostFqdnOf env e }).1 ≠ .success)
    (h : adcliEnrollPrepare env flags e w = some (.success, e', w')) :
    e'.computerName = none ∧ e'.computerSam = some "(null)$" := by
  obtain ⟨r2, e2, r3, e3, r4, e4, r5, e5, r6, e6, rest, hA, hB, h4, hC, hD, h7, -⟩ :=
    adcliEnrollPrepare_some h
  obtain ⟨rfl, -, -, h7⟩ := ensureServicePrincipals_success env e6 h7
  obtain ⟨_, _, _, -, -, -, he'⟩ := prepareKeytabPrincipals_success env _ h7
  obtain ⟨rfl, he6⟩ := ensureServiceNames_success e5 hD
  obtain ⟨rfl, _, _, _, he5⟩ := ensureHostKeytab_if_success env e4 hC
  obtain ⟨rfl, _, he4⟩ := ensureComputerPassword_success env e3 h4
  obtain ⟨_, -, he3⟩ := ensureComputerSam_success env e2 hB
  obtain ⟨he2, hn⟩ := ensureComputerName_not_success _ hname
  rw [hA] at he2
  dsimp only at he2
  simp only [he', he6, he5, he4, he3, he2, hn rfl, true_and]
  rfl

/-- The host `host01`, which has no dot: the computer name fails with
`ADCLI_ERR_CONFIG`, yet prepare succeeds with the SAM name `"(null)$"`. -/
theorem adcliEnrollPrepare_null_sam_host01 :
    (ensureComputerName .success (adcliEnrollSetComputerPassword
        (adcliEnrollSetHostFqdn adcliEnrollNew (some "host01")) (some "secret"))).1 = .errConfig ∧
    (adcliEnrollPrepare sampleEnv {} (adcliEnrollSetComputerPassword
        (adcliEnrollSetHostFqdn adcliEnrollNew (some "host01")) (some "secret")) ⟨[], [], []⟩).map
      (fun r => (r.1, r.2.1.computerName, r.2.1.computerSam)) = some (.success, none, some "(null)$") := by
  have run : ∀ e e' w', (ensureComputerName .success { e with hostFqdn := hostFqdnOf sampleEnv e }).1 ≠ .success →
      adcliEnrollPrepare sampleEnv {} e ⟨[], [], []⟩ = some (.success, e', w') →
      (adcliEnrollPrepare sampleEnv {} e ⟨[], [], []⟩).map
        (fun r => (r.1, r.2.1.computerName, r.2.1.computerSam)) = some (.success, none, some "(null)$") := by
    intro e e' w' hn hp
    obtain ⟨h1, h2⟩ := adcliEnrollPrepare_null_sam hn hp
    rw [hp, Option.map_some', h1, h2]
  exact ⟨rfl, run _ _ _ (by decide) rfl⟩

/-- **The names a successful `adcli_enroll_prepare` derives**, with no service principals
set before: the FQDN is the context's or the connection's; the
computer name is what `ensure_computer_name` derives from it; the SAM name is `"%s$"` of
the computer name and the computer principal is that name in the connection's realm; the
service principals are, for each service name in order, the one with the computer name
and then the one with the FQDN when there is one; and the keytab principals are the
computer principal, then one principal per service principal in the same order, each in
the connection's realm, and a `NULL`. -/
theorem adcliEnrollPrepare_derived {env : Env} {flags : Flags} {e e' : Enroll} {w w' : World}
    (hsp : e.servicePrincipals = none)
    (h : adcliEnrollPrepare env flags e w = some (.success, e', w')) :
    e'.hostFqdn = hostFqdnOf env e ∧
    e'.computerName = (ensureComputerName .success { e with hostFqdn := hostFqdnOf env e }).2.computerName ∧
    e'.computerSam = some (cstr e'.computerName ++ "$") ∧
    ∃ p, env.parseName (cstr e'.computerName ++ "$") = some p ∧
      e'.computerPrincipal = some (p.setRealm env.domainRealm) ∧
      e'.servicePrincipals = some ((e.serviceNames.getD defaultServiceNames).flatMap
        (servicePrincipalsFor e'.computerName e'.hostFqdn)) ∧
      ∃ ps : List Principal, (e'.servicePrincipals.getD []).map env.parseName = ps.map some ∧
        e'.keytabPrincipals = some (some (p.setRealm env.domainRealm) ::
          ps.map (fun q => some (q.setRealm env.domainRealm)) ++ [none]) := by
  obtain ⟨r2, e2, r3, e3, r4, e4, r5, e5, r6, e6, rest, hA, hB, h4, hC, hD, h7, -⟩ :=
    adcliEnrollPrepare_some h
  clear h
  obtain ⟨rfl, -, -, h7⟩ := ensureServicePrincipals_success env e6 h7
  obtain ⟨rfl, rfl⟩ := ensureServiceNames_success e5 hD
  obtain ⟨rfl, hk⟩ := ensureHostKeytab_if_success env e4 hC
  obtain ⟨rfl, hpw⟩ := ensureComputerPassword_success env e3 h4
  obtain ⟨p, hp, he3⟩ := ensureComputerSam_success env e2 hB
  obtain ⟨n, hn2⟩ := ensureComputerName_frame { e with hostFqdn := hostFqdnOf env e } .success
  rw [hA] at hn2
  dsimp only at hn2
  subst hn2
  subst he3
  obtain ⟨pw, rfl⟩ := hpw
  obtain ⟨k, kn, kb, rfl⟩ := hk
  dsimp only at h7 ⊢
  obtain ⟨sps, cp, ps, hsps, hcp, hps, rfl⟩ := prepareKeytabPrincipals_success env _ h7
  dsimp only at hsps hcp hp ⊢
  cases hcp
  have hS : servicePrincipalsOrOf e.servicePrincipals (some (e.serviceNames.getD defaultServiceNames))
      n (hostFqdnOf env e) = if e.serviceNames.getD defaultServiceNames = [] then none
        else some ((e.serviceNames.getD defaultServiceNames).flatMap
          (servicePrincipalsFor n (hostFqdnOf env e))) := by
    rw [hsp, servicePrincipalsOrOf, Option.none_or, Option.getD_some, servicePrincipalsOf_eq]
  rw [hS] at hsps ⊢
  split_ifs at hsps ⊢
  cases hsps
  exact ⟨rfl, by rw [hA], rfl, p, hp, rfl, rfl, ps, hps, rfl⟩

/-- The computer name, SAM name, principals and keytab principals of the enrollment. On a
context with no computer name, `ensure_computer_name` succeeds on an FQDN exactly when it
has a dot whose first occurrence is neither its first nor its last character, and then
takes the part before that dot, upper-cased; otherwise it fails with `ADCLI_ERR_CONFIG`. A
successful `adcli_enroll_prepare` with no service principals set before leaves the SAM name
`"%s$"` of the computer name, the computer principal that name in the connection's realm,
the service principals `s/name` then `s/fqdn` for each service name `s`, and the keytab
principals the computer principal, then one per service principal in the same order, each
in the connection's realm, then `NULL`: `1 + |service_principals|` principals before the
first `NULL`. -/
theorem adcliEnrollPrepare_names :
    (∀ (e : Enroll) (f : String), e.hostFqdn = some f → e.computerName = none →
      (∀ pre post, f.data = pre ++ '.' :: post → '.' ∉ pre → pre ≠ [] → post ≠ [] →
        ensureComputerName .success e = (.success, { e with computerName := some (strUp ⟨pre⟩) })) ∧
      ((¬ ∃ pre post, f.data = pre ++ '.' :: post ∧ '.' ∉ pre ∧ pre ≠ [] ∧ post ≠ []) →
        ensureComputerName .success e = (.errConfig, e))) ∧
    ∀ (env : Env) (flags : Flags) (e e' : Enroll) (w w' : World), e.servicePrincipals = none →
      adcliEnrollPrepare env flags e w = some (.success, e', w') →
      e'.hostFqdn = hostFqdnOf env e ∧
      e'.computerName = (ensureComputerName .success { e with hostFqdn := hostFqdnOf env e }).2.computerName ∧
      e'.computerSam = some (cstr e'.computerName ++ "$") ∧
      ∃ p, env.parseName (cstr e'.computerName ++ "$") = some p ∧
        e'.computerPrincipal = some (p.setRealm env.domainRealm) ∧
        e'.servicePrincipals = some ((e.serviceNames.getD defaultServiceNames).flatMap
          (servicePrincipalsFor e'.computerName e'.hostFqdn)) ∧
        ∃ ps : List Principal, (e'.servicePrincipals.getD []).map env.parseName = ps.map some ∧
          e'.keytabPrincipals = some (some (p.setRealm env.domainRealm) ::
            ps.map (fun q => some (q.setRealm env.domainRealm)) ++ [none]) ∧
          (nullTerminated (e'.keytabPrincipals.getD [])).length =
            1 + (e'.servicePrincipals.getD []).length := by
  refine ⟨fun e f hf hn => ensureComputerName_fqdn e hf hn, fun env flags e e' w w' hsp h => ?_⟩
  obtain ⟨h1, h2, h3, p, hp, h4, h5, ps, h6, h7⟩ := adcliEnrollPrepare_derived hsp h
  refine ⟨h1, h2, h3, p, hp, h4, h5, ps, h6, h7, ?_⟩
  have hl := congrArg List.length h6
  have hmap : ps.map (fun q => some (q.setRealm env.domainRealm)) =
      (ps.map (·.setRealm env.domainRealm)).map some := by simp
  rw [h7, Option.getD_some, List.cons_append, nullTerminated_some, hmap, nullTerminated_map_append]
  simp only [List.length_map] at hl
  simp [hl, Nat.add_comm]

end Adcli

/-
Where `adcli_enroll_join` puts the computer account, and how it reconciles the account
with the directory: the preferred OU and its computers container, the account's DN, its
creation or update, and the attribute updates that follow the password change. Each
update goes through `filter_for_necessary_updates`, an in-place filter that keeps the
mods the entry does not already hold, so that a modify carries only what differs and is
not sent when nothing does.
-/
import Adcli.Context

namespace Adcli

/-! ## The preferred OU, the computers container and the DN -/

/-- The function `validate_preferred_ou`: the naming context passes as it is
(`strcasecmp`, character by character in lower case), any other OU must compare as an
`organizationalUnit`. `none` is `assert (enroll->preferred_ou != NULL)` failing. -/
def validatePreferredOu (env : Env) (log : List Write) (e : Enroll) : Option (AdcliResult × Enroll) :=
  match e.preferredOu with
  | none => none
  | some ou =>
    if e.preferredOuValidated then some (.success, e)
    else if ou.data.map Char.toLower = env.namingContext.data.map Char.toLower then
      some (.success, { e with preferredOuValidated := true })
    else
      let ret := env.compare log ou "objectClass" "organizationalUnit"
      if ret = ldapCompareTrue then some (.success, { e with preferredOuValidated := true })
      else if ret = ldapCompareFalse then some (.errConfig, e)
      else some (ldapHandleFailure .errDirectory, e)

/-- The function `lookup_preferred_ou`: the domain's `preferredOU`, or the naming context
when it has none. `none` is `assert (enroll->preferred_ou == NULL)` failing. -/
def lookupPreferredOu (env : Env) (log : List Write) (e : Enroll) : Option (AdcliResult × Enroll) :=
  match e.preferredOu with
  | some _ => none
  | none =>
    let r := env.search log env.namingContext "(objectClass=computer)" ["preferredOU"]
    if r.code ≠ ldapSuccess then some (ldapHandleFailure .errDirectory, e)
    else some (.success, { e with preferredOu := some ((r.parseValue "preferredOU").getD env.namingContext) })

/-- The prefix of the computers container's entry in `wellKnownObjects`. -/
def computersContainerPrefix : String := "B:32:AA312825768811D1ADED00C04FD8D5CD:"

/-- The function `lookup_computer_container`: the OU's well-known computers container (the
first value that `strncmp` finds to start with the prefix, less the prefix), else a
`container` named `Computers` in it, else the OU itself. `none` is
`assert (enroll->preferred_ou != NULL)` failing. -/
def lookupComputerContainer (env : Env) (log : List Write) (e : Enroll) : Option (AdcliResult × Enroll) :=
  match e.preferredOu with
  | none => none
  | some ou =>
    if e.computerContainer.isSome then some (.success, e)
    else
      let r := env.search log ou "(objectClass=*)" ["wellKnownObjects"]
      if r.code ≠ ldapSuccess then some (ldapHandleFailure .errDirectory, e)
      else
        match ((r.parseValues "wellKnownObjects").getD []).find? (computersContainerPrefix.data.isPrefixOf ·.data) with
        | some v => some (.success, { e with computerContainer := some ⟨v.data.drop computersContainerPrefix.length⟩ })
        | none =>
          let r := env.search log ou "(&(objectClass=container)(cn=Computers))" ["wellKnownObjects"]
          let found := if r.code = ldapSuccess then r.parseDn else none
          some (.success, { e with computerContainer := some (found.getD ou) })

/-- The function `calc_computer_account`: `"CN=%s,%s"` of the computer name and the
container. `none` is `assert (enroll->computer_container)` failing. -/
def calcComputerAccount (e : Enroll) : Option (AdcliResult × Enroll) :=
  match e.computerContainer with
  | none => none
  | some cc => some (.success, { e with computerDn := some ("CN=" ++ cstr e.computerName ++ "," ++ cc) })

section Place

variable (env : Env) (log : List Write) (e : Enroll)

/-- Validating a set OU changes at most its validation. -/
theorem validatePreferredOu_eq (h : e.preferredOu.isSome) :
    ∃ r v, validatePreferredOu env log e = some (r, { e with preferredOuValidated := v }) := by
  unfold validatePreferredOu
  split
  · simp_all
  · dsimp only
    split_ifs <;> exact ⟨_, _, rfl⟩

/-- Looking up the OU, when none is set, sets it when it succeeds. -/
theorem lookupPreferredOu_eq (h : e.preferredOu = none) :
    ∃ r ou, lookupPreferredOu env log e = some (r, { e with preferredOu := ou }) ∧
      (r = .success → ou.isSome) := by
  unfold lookupPreferredOu
  split
  · simp_all
  · dsimp only
    split_ifs
    · exact ⟨_, _, rfl, fun h' => absurd h' (by decide)⟩
    · exact ⟨_, _, rfl, fun _ => rfl⟩

/-- Looking up the container of a set OU sets it when it succeeds. -/
theorem lookupComputerContainer_eq (h : e.preferredOu.isSome) :
    ∃ r cc, lookupComputerContainer env log e = some (r, { e with computerContainer := cc }) ∧
      (r = .success → cc.isSome) := by
  unfold lookupComputerContainer
  split
  · simp_all
  · dsimp only
    split_ifs with hcc
    · exact ⟨_, _, rfl, fun _ => hcc⟩
    · exact ⟨_, _, rfl, fun h' => absurd h' (by decide)⟩
    all_goals split <;> exact ⟨_, _, rfl, fun _ => rfl⟩

/-- The container lookup changes only the container, and keeps one already set. -/
theorem lookupComputerContainer_frame {r : AdcliResult} {e' : Enroll}
    (h : lookupComputerContainer env log e = some (r, e')) :
    ∃ cc, e' = { e with computerContainer := cc } ∧ (e.computerContainer.isSome → cc = e.computerContainer) := by
  unfold lookupComputerContainer at h
  split at h
  · cases h
  dsimp only at h
  split_ifs at h with hcc
  · cases h
    exact ⟨_, rfl, fun _ => rfl⟩
  all_goals first
    | (cases h; exact ⟨_, rfl, fun h' => absurd h' hcc⟩)
    | (split at h <;> cases h <;> exact ⟨_, rfl, fun h' => absurd h' hcc⟩)

/-- The DN is built once a container is set. -/
theorem calcComputerAccount_eq (h : e.computerContainer.isSome) :
    ∃ dn, calcComputerAccount e = some (.success, { e with computerDn := some dn }) := by
  unfold calcComputerAccount
  split
  · simp_all
  · exact ⟨_, rfl⟩

end Place

/-! ## Filtering the mods -/

/-- Whether `filter_for_necessary_updates` drops a mod: the entry has the mod's attribute
and `_adcli_ldap_have_mod` finds the mod among its values. With no entry nothing is dropped. -/
def modMatches (env : Env) (entry : Option LdapEntry) (mod : LdapMod) : Bool :=
  match entry with
  | none => false
  | some en =>
    match en.values mod.type with
    | none => false
    | some vals => env.haveMod mod vals

/-- The function `filter_for_necessary_updates` on the `NULL`-terminated array `mods`: the
compaction loop keeps each mod the entry does not match, then `mods[out] = NULL`. It
gives the array and `out`. -/
def filterForNecessaryUpdates (env : Env) (entry : Option LdapEntry) (mods : List (Option LdapMod)) :
    List (Option LdapMod) × Nat :=
  let (mods, out) := compactLoop (fun m => !m.any (modMatches env entry)) none
    (nullTerminated mods).length 0 0 mods
  (mods.set out none, out)

/-- The mods `create_or_update_computer_account` writes, with `mod_op` `0`: `objectClass`
`computer`, the SAM name, and `userAccountControl` `69632`
(`WORKSTATION_TRUST_ACCOUNT | DONT_EXPIRE_PASSWD`). A `NULL` SAM name is a mod with no value. -/
def computerAccountMods (computerSam : Option String) : List LdapMod :=
  [⟨0, "objectClass", ["computer"]⟩, ⟨0, "sAMAccountName", computerSam.toList⟩,
    ⟨0, "userAccountControl", ["69632"]⟩]

/-- The attributes `create_or_update_computer_account` reads back, one per mod. -/
def computerAccountAttrs : List String := ["objectClass", "sAMAccountName", "userAccountControl"]

/-- Modelled from the spec: `_adcli_ldap_prune_empty_mods` (adldap.c) drops the mods with
no value ("Empty-valued mods are pruned before the add"). -/
def pruneEmptyMods (mods : List LdapMod) : List LdapMod :=
  mods.filter fun m => !m.values.isEmpty

/-! ## Writing the account -/

/-- The result every modify of the account is read into: `INSUFFICIENT_ACCESS` is a
credentials failure, any other error a directory one. -/
def modifyResult (ret : Int) : AdcliResult :=
  if ret = ldapInsufficientAccess then ldapHandleFailure .errCredentials
  else if ret ≠ ldapSuccess then ldapHandleFailure .errDirectory
  else .success

/-- The function `create_computer_account`: prune the empty mods and send the add;
`INSUFFICIENT_ACCESS` and `OBJECT_CLASS_VIOLATION` are a credentials failure. -/
def createComputerAccount (env : Env) (log : List Write) (dn : String) (mods : List (Option LdapMod)) :
    AdcliResult × List Write :=
  let mods := pruneEmptyMods (nullTerminated mods)
  let ret := env.add log dn mods
  (if ret = ldapInsufficientAccess ∨ ret = ldapObjectClassViolation then ldapHandleFailure .errCredentials
    else if ret ≠ ldapSuccess then ldapHandleFailure .errDirectory
    else .success, log ++ [.ldapAdd dn mods])

/-- The function `modify_computer_account`: every mod made `LDAP_MOD_REPLACE`, then the modify. -/
def modifyComputerAccount (env : Env) (log : List Write) (dn : String) (mods : List (Option LdapMod)) :
    AdcliResult × List Write :=
  let mods := (nullTerminated mods).map fun m => { m with op := m.op ||| ldapModReplace }
  (modifyResult (env.modify log dn mods), log ++ [.ldapModify dn mods])

/-- The function `create_or_update_computer_account`: create the account when the DN has no
object, refuse an existing one unless overwriting is allowed, and otherwise modify what
differs. `none` is `assert (enroll->computer_dn != NULL)` failing. -/
def createOrUpdateComputerAccount (env : Env) (allowOverwrite : Bool) (e : Enroll) (log : List Write) :
    Option (AdcliResult × List Write) :=
  match e.computerDn with
  | none => none
  | some dn =>
    let mods := (computerAccountMods e.computerSam).map some ++ [none]
    let r := env.search log dn "(objectClass=*)" computerAccountAttrs
    if r.code = ldapNoSuchObject then some (createComputerAccount env log dn mods)
    else if r.code = ldapSuccess then
      if !allowOverwrite then some (.errConfig, log)
      else
        let (mods, _) := filterForNecessaryUpdates env r.entry mods
        match mods.head? with
        | some (some _) => some (modifyComputerAccount env log dn mods)
        | _ => some (.success, log)
    else some (ldapHandleFailure .errDirectory, log)

/-! ## Updating the account's attributes -/

/-- The entry `enroll->computer_attributes` holds, which the updates filter against. -/
def Enroll.attributesEntry (e : Enroll) : Option LdapEntry :=
  e.computerAttributes.bind (·.entry)

/-- What `update_dns_host_name` and `update_service_principals` do with their one
`LDAP_MOD_REPLACE` mod: send it unless the account's attributes already hold it. -/
def updateAccountAttribute (env : Env) (e : Enroll) (log : List Write) (type : String)
    (values : List String) : AdcliResult × List Write :=
  let (mods, out) := filterForNecessaryUpdates env e.attributesEntry [some ⟨ldapModReplace, type, values⟩, none]
  if out = 0 then (.success, log)
  else
    let mods := nullTerminated mods
    (modifyResult (env.modify log (cstr e.computerDn) mods), log ++ [.ldapModify (cstr e.computerDn) mods])

/-- The function `update_dns_host_name`. -/
def updateDnsHostName (env : Env) (e : Enroll) (log : List Write) : AdcliResult × List Write :=
  updateAccountAttribute env e log "dNSHostName" e.hostFqdn.toList

/-- The function `update_service_principals`. -/
def updateServicePrincipals (env : Env) (e : Enroll) (log : List Write) : AdcliResult × List Write :=
  updateAccountAttribute env e log "servicePrincipalName" (e.servicePrincipals.getD [])

/-- The function `update_and_calculate_enctypes`: unless the enctypes were set explicitly,
take those of the account when they parse; then write the encoding of the enctypes in
use, unless the account already has it. Its `mod_op` is `LDAP_MOD_REPLACE` already. -/
def updateAndCalculateEnctypes (env : Env) (e : Enroll) (log : List Write) :
    AdcliResult × Enroll × List Write :=
  let value := e.computerAttributes.bind (·.parseValue "msDS-supportedEncryptionTypes")
  let e := if e.keytabEnctypesExplicit then e else
    match value.bind env.parseEnctypes with
    | some read => { e with keytabEnctypes := some read }
    | none => e
  match env.formatEnctypes (adcliEnrollGetKeytabEnctypes e) with
  | none => (.errConfig, e, log)
  | some newValue =>
    if value = some newValue then (.success, e, log)
    else
      let (mods, out) := filterForNecessaryUpdates env e.attributesEntry
        [some ⟨ldapModReplace, "msDS-supportedEncryptionTypes", [newValue]⟩, none]
      if out = 0 then (modifyResult ldapSuccess, e, log)
      else
        let mods := nullTerminated mods
        (modifyResult (env.modify log (cstr e.computerDn) mods), e, log ++ [.ldapModify (cstr e.computerDn) mods])

/-! ## The filter -/

section Filter

variable (env : Env) (entry : Option LdapEntry)

/-- **`filter_for_necessary_updates` is an in-place, order-preserving filter.** On a
`NULL`-terminated array it moves the mods the entry does not match to the front, in their
order, puts a `NULL` after them, and counts them. -/
theorem filterForNecessaryUpdates_eq (ms : List LdapMod) (rest : List (Option LdapMod)) :
    ∃ tail, filterForNecessaryUpdates env entry (ms.map some ++ none :: rest) =
      ((ms.filter fun m => !modMatches env entry m).map some ++ none :: tail,
        (ms.filter fun m => !modMatches env entry m).length) := by
  have hkeep : (ms.map some).filter (fun m => !m.any (modMatches env entry)) =
      (ms.filter fun m => !modMatches env entry m).map some := by
    rw [List.filter_map]; rfl
  have hlen : (ms.filter fun m => !modMatches env entry m).length ≤ ms.length := List.length_filter_le _ _
  rw [filterForNecessaryUpdates, nullTerminated_map_append, compactLoop_eq _ _ _ (by simp),
    List.take_left' (by simp), hkeep]
  dsimp only
  rw [List.drop_append_of_le_length (by simpa using hlen),
    List.set_append_right _ _ (by simp), List.length_map, Nat.sub_self]
  generalize (ms.map some).drop _ = l
  cases l <;> exact ⟨_, rfl⟩

/-- The mods a filtered array holds before its `NULL`. -/
theorem nullTerminated_filterForNecessaryUpdates (ms : List LdapMod) (rest : List (Option LdapMod)) :
    nullTerminated (filterForNecessaryUpdates env entry (ms.map some ++ none :: rest)).1 =
      ms.filter fun m => !modMatches env entry m := by
  obtain ⟨tail, h⟩ := filterForNecessaryUpdates_eq env entry ms rest
  rw [h, nullTerminated_map_append]

/-- A one-mod array keeps its mod exactly when the entry does not match it. -/
theorem filterForNecessaryUpdates_single (m : LdapMod) :
    (nullTerminated (filterForNecessaryUpdates env entry [some m, none]).1,
      (filterForNecessaryUpdates env entry [some m, none]).2) =
      if modMatches env entry m then ([], 0) else ([m], 1) := by
  obtain ⟨tail, h⟩ := filterForNecessaryUpdates_eq env entry [m] []
  rw [List.map_singleton, List.singleton_append] at h
  rw [h, nullTerminated_map_append]
  cases hm : modMatches env entry m <;> simp [hm]

end Filter

/-! ## Only what differs is written -/

section Writes

variable (env : Env) (e : Enroll) (log : List Write)

/-- The writes of `create_or_update_computer_account` at DN `dn`, by the search's answer `r`:
the add of the non-empty mods when there is no object, nothing when overwriting is not
allowed, and otherwise the modify of the mods the entry does not match, sent only when
there is one. -/
theorem createOrUpdateComputerAccount_eq (allowOverwrite : Bool) {dn : String}
    (hdn : e.computerDn = some dn) :
    createOrUpdateComputerAccount env allowOverwrite e log =
      let r := env.search log dn "(objectClass=*)" computerAccountAttrs
      let diff := (computerAccountMods e.computerSam).filter fun m => !modMatches env r.entry m
      some (if r.code = ldapNoSuchObject then
          createComputerAccount env log dn ((computerAccountMods e.computerSam).map some ++ [none])
        else if r.code = ldapSuccess then
          if !allowOverwrite then (.errConfig, log)
          else if diff = [] then (.success, log)
          else modifyComputerAccount env log dn (diff.map some ++ [none])
        else (ldapHandleFailure .errDirectory, log)) := by
  obtain ⟨tail, h⟩ := filterForNecessaryUpdates_eq env
    (env.search log dn "(objectClass=*)" computerAccountAttrs).entry (computerAccountMods e.computerSam) []
  simp only [createOrUpdateComputerAccount, hdn, List.singleton_append, h]
  generalize (computerAccountMods e.computerSam).filter _ = diff
  cases diff with
  | nil => simp only [eq_self_iff_true, if_true]; split_ifs <;> rfl
  | cons m diff =>
    simp only [reduceCtorEq, if_false, List.map_cons, List.cons_append, List.head?_cons,
      modifyComputerAccount, nullTerminated_some, nullTerminated_map_append]
    split_ifs <;> rfl

/-- The one-mod updates: the modify is sent exactly when the account's attributes do not
already hold the mod. -/
theorem updateAccountAttribute_eq (type : String) (values : List String) :
    updateAccountAttribute env e log type values =
      if modMatches env e.attributesEntry ⟨ldapModReplace, type, values⟩ then (.success, log)
      else (modifyResult (env.modify log (cstr e.computerDn) [⟨ldapModReplace, type, values⟩]),
        log ++ [.ldapModify (cstr e.computerDn) [⟨ldapModReplace, type, values⟩]]) := by
  have h := filterForNecessaryUpdates_single env e.attributesEntry ⟨ldapModReplace, type, values⟩
  simp only [updateAccountAttribute]
  generalize filterForNecessaryUpdates env _ _ = r at h
  obtain ⟨mods, out⟩ := r
  split_ifs at h ⊢ <;> simp_all

/-- The enctypes update sends a modify only when the encoding of the enctypes in use
differs from the account's value and the account's attributes do not hold it. -/
theorem updateAndCalculateEnctypes_writes :
    (updateAndCalculateEnctypes env e log).2.2 = log ∨
      ∃ v, env.formatEnctypes (adcliEnrollGetKeytabEnctypes (updateAndCalculateEnctypes env e log).2.1) = some v ∧
        e.computerAttributes.bind (·.parseValue "msDS-supportedEncryptionTypes") ≠ some v ∧
        modMatches env e.attributesEntry ⟨ldapModReplace, "msDS-supportedEncryptionTypes", [v]⟩ = false ∧
        (updateAndCalculateEnctypes env e log).2.2 =
          log ++ [.ldapModify (cstr e.computerDn) [⟨ldapModReplace, "msDS-supportedEncryptionTypes", [v]⟩]] := by
  simp only [updateAndCalculateEnctypes]
  generalize hE : (if e.keytabEnctypesExplicit = true then e else _) = e1
  obtain ⟨hdn, hentry⟩ : e1.computerDn = e.computerDn ∧ e1.attributesEntry = e.attributesEntry := by
    subst hE; split
    · exact ⟨rfl, rfl⟩
    · split <;> exact ⟨rfl, rfl⟩
  split
  · exact .inl rfl
  rename_i v hv
  have h := filterForNecessaryUpdates_single env e.attributesEntry
    ⟨ldapModReplace, "msDS-supportedEncryptionTypes", [v]⟩
  rw [hentry, hdn]
  generalize filterForNecessaryUpdates env _ _ = r at h ⊢
  obtain ⟨mods, out⟩ := r
  split_ifs with hval hout
  · exact .inl rfl
  · exact .inl rfl
  cases hm : modMatches env e.attributesEntry ⟨ldapModReplace, "msDS-supportedEncryptionTypes", [v]⟩ <;>
    simp only [hm, if_true, if_false, Bool.false_eq_true, Prod.mk.injEq] at h <;>
    obtain ⟨hmods, rfl⟩ := h
  · exact .inr ⟨v, hv, hval, hm, by rw [hmods]⟩
  · exact absurd rfl hout

/-- The enctypes update changes only the enctypes of the context. -/
theorem updateAndCalculateEnctypes_fst :
    ∃ k, (updateAndCalculateEnctypes env e log).2.1 = { e with keytabEnctypes := k } := by
  simp only [updateAndCalculateEnctypes]
  generalize hE : (if e.keytabEnctypesExplicit = true then e else _) = e1
  obtain ⟨k, rfl⟩ : ∃ k, e1 = { e with keytabEnctypes := k } := by
    subst hE
    split
    · exact ⟨e.keytabEnctypes, rfl⟩
    · split
      · exact ⟨_, rfl⟩
      · exact ⟨e.keytabEnctypes, rfl⟩
  refine ⟨k, ?_⟩
  split
  · rfl
  · split_ifs <;> rfl

/-- Every mod the account is created with is an add (`mod_op` `0`), so or-ing in
`LDAP_MOD_REPLACE` makes it a replace. -/
theorem replace_computerAccountMods {sam : Option String} {m : LdapMod}
    (hm : m ∈ computerAccountMods sam) : { m with op := m.op ||| ldapModReplace } = { m with op := ldapModReplace } := by
  simp only [computerAccountMods, List.mem_cons, List.mem_singleton, List.not_mem_nil, or_false] at hm
  rcases hm with rfl | rfl | rfl <;> simp only [Nat.zero_or]

/-- **Only what differs is written to the computer account.** `create_or_update_computer_account`
adds the account exactly when the search finds no object at its DN; it refuses an existing
account unless overwriting is allowed, writing nothing; otherwise it sends one modify,
of the mods the entry does not match in their order, each `LDAP_MOD_REPLACE`, and only when
there is one; any other answer of the search is a directory failure with no write. The
one-mod updates of the DNS host name and the service principals write exactly when the
account's attributes do not hold their mod, and the enctypes update only then and when
the account's value differs. All of them rest on `filter_for_necessary_updates`, an
in-place, order-preserving filter that ends the kept mods with a `NULL` and counts them. -/
theorem createOrUpdateComputerAccount_minimal :
    (∀ (env : Env) (allowOverwrite : Bool) (e : Enroll) (log : List Write) (dn : String),
      e.computerDn = some dn →
      let r := env.search log dn "(objectClass=*)" computerAccountAttrs
      let diff := (computerAccountMods e.computerSam).filter fun m => !modMatches env r.entry m
      (r.code = ldapNoSuchObject → ∃ res, createOrUpdateComputerAccount env allowOverwrite e log =
          some (res, log ++ [.ldapAdd dn (pruneEmptyMods (computerAccountMods e.computerSam))])) ∧
      (r.code = ldapSuccess → allowOverwrite = false →
          createOrUpdateComputerAccount env allowOverwrite e log = some (.errConfig, log)) ∧
      (r.code = ldapSuccess → allowOverwrite = true → diff = [] →
          createOrUpdateComputerAccount env allowOverwrite e log = some (.success, log)) ∧
      (r.code = ldapSuccess → allowOverwrite = true → diff ≠ [] → ∃ res,
          createOrUpdateComputerAccount env allowOverwrite e log = some (res, log ++
            [.ldapModify dn (diff.map fun m => { m with op := ldapModReplace })])) ∧
      (r.code ≠ ldapNoSuchObject → r.code ≠ ldapSuccess →
          createOrUpdateComputerAccount env allowOverwrite e log = some (.errDirectory, log))) ∧
    (∀ (env : Env) (e : Enroll) (log : List Write),
      (updateDnsHostName env e log).2 =
        if modMatches env e.attributesEntry ⟨ldapModReplace, "dNSHostName", e.hostFqdn.toList⟩ then log
        else log ++ [.ldapModify (cstr e.computerDn) [⟨ldapModReplace, "dNSHostName", e.hostFqdn.toList⟩]]) ∧
    (∀ (env : Env) (e : Enroll) (log : List Write),
      (updateServicePrincipals env e log).2 =
        if modMatches env e.attributesEntry ⟨ldapModReplace, "servicePrincipalName", e.servicePrincipals.getD []⟩
        then log
        else log ++ [.ldapModify (cstr e.computerDn)
          [⟨ldapModReplace, "servicePrincipalName", e.servicePrincipals.getD []⟩]]) ∧
    (∀ (env : Env) (e : Enroll) (log : List Write),
      (updateAndCalculateEnctypes env e log).2.2 = log ∨
        ∃ v, env.formatEnctypes (adcliEnrollGetKeytabEnctypes (updateAndCalculateEnctypes env e log).2.1) = some v ∧
          e.computerAttributes.bind (·.parseValue "msDS-supportedEncryptionTypes") ≠ some v ∧
          modMatches env e.attributesEntry ⟨ldapModReplace, "msDS-supportedEncryptionTypes", [v]⟩ = false ∧
          (updateAndCalculateEnctypes env e log).2.2 =
            log ++ [.ldapModify (cstr e.computerDn) [⟨ldapModReplace, "msDS-supportedEncryptionTypes", [v]⟩]]) ∧
    (∀ (env : Env) (entry : Option LdapEntry) (ms : List LdapMod) (rest : List (Option LdapMod)),
      ∃ tail, filterForNecessaryUpdates env entry (ms.map some ++ none :: rest) =
        ((ms.filter fun m => !modMatches env entry m).map some ++ none :: tail,
          (ms.filter fun m => !modMatches env entry m).length)) := by
  refine ⟨fun env allowOverwrite e log dn hdn => ?_, fun env e log => ?_, fun env e log => ?_,
    updateAndCalculateEnctypes_writes, filterForNecessaryUpdates_eq⟩
  · have hreplace : ((computerAccountMods e.computerSam).filter fun m =>
        !modMatches env (env.search log dn "(objectClass=*)" computerAccountAttrs).entry m).map
          (fun m => { m with op := m.op ||| ldapModReplace }) =
        ((computerAccountMods e.computerSam).filter fun m =>
          !modMatches env (env.search log dn "(objectClass=*)" computerAccountAttrs).entry m).map
          (fun m => { m with op := ldapModReplace }) :=
      List.map_congr_left fun m hm => replace_computerAccountMods (List.mem_of_mem_filter hm)
    rw [createOrUpdateComputerAccount_eq env e log allowOverwrite hdn]
    dsimp only
    have hne : ∀ {c : Int}, c = ldapSuccess → c ≠ ldapNoSuchObject := by rintro _ rfl; decide
    refine ⟨fun h => ⟨_, by rw [if_pos h]; rfl⟩, fun h ho => ?_, fun h ho hd => ?_, fun h ho hd => ?_,
      fun h h' => by rw [if_neg h, if_neg h']; rfl⟩ <;> rw [if_neg (hne h), if_pos h, ho]
    · rfl
    · rw [if_pos hd]; rfl
    · rw [if_neg hd, modifyComputerAccount, nullTerminated_map_append, hreplace]
      exact ⟨_, rfl⟩
  · rw [updateDnsHostName, updateAccountAttribute_eq]
    split_ifs <;> rfl
  · rw [updateServicePrincipals, updateAccountAttribute_eq]
    split_ifs <;> rfl

/-- The spec's host against `sampleEnv`. Before the add, the search finds no object at the
DN and the account is added. After it, the search finds the account, whose entry holds
none of the three mods, so with overwriting allowed one modify replaces all three. -/
theorem createOrUpdateComputerAccount_minimal_add :
    ((sampleEnv.search [] "CN=HOST01,CN=Computers,DC=corp,DC=example,DC=com" "(objectClass=*)"
      computerAccountAttrs).code = ldapNoSuchObject ∧
    ∃ res, createOrUpdateComputerAccount sampleEnv false
        { computerSam := some "HOST01$", computerDn := some "CN=HOST01,CN=Computers,DC=corp,DC=example,DC=com" } [] =
      some (res, [.ldapAdd "CN=HOST01,CN=Computers,DC=corp,DC=example,DC=com"
        (pruneEmptyMods (computerAccountMods (some "HOST01$")))])) ∧
    ((sampleEnv.search [.ldapAdd "CN=HOST01,CN=Computers,DC=corp,DC=example,DC=com"
        (pruneEmptyMods (computerAccountMods (some "HOST01$")))]
      "CN=HOST01,CN=Computers,DC=corp,DC=example,DC=com" "(objectClass=*)" computerAccountAttrs).code = ldapSuccess ∧
    ∃ res, createOrUpdateComputerAccount sampleEnv true
        { computerSam := some "HOST01$", computerDn := some "CN=HOST01,CN=Computers,DC=corp,DC=example,DC=com" }
        [.ldapAdd "CN=HOST01,CN=Computers,DC=corp,DC=example,DC=com"
          (pruneEmptyMods (computerAccountMods (some "HOST01$")))] =
      some (res, [.ldapAdd "CN=HOST01,CN=Computers,DC=corp,DC=example,DC=com"
          (pruneEmptyMods (computerAccountMods (some "HOST01$"))),
        .ldapModify "CN=HOST01,CN=Computers,DC=corp,DC=example,DC=com"
          [⟨ldapModReplace, "objectClass", ["computer"]⟩, ⟨ldapModReplace, "sAMAccountName", ["HOST01$"]⟩,
            ⟨ldapModReplace, "userAccountControl", ["69632"]⟩]])) :=
  ⟨⟨rfl, (createOrUpdateComputerAccount_minimal.1 sampleEnv false
    { computerSam := some "HOST01$", computerDn := some "CN=HOST01,CN=Computers,DC=corp,DC=example,DC=com" } []
    _ rfl).1 rfl⟩,
  ⟨rfl, (createOrUpdateComputerAccount_minimal.1 sampleEnv true
    { computerSam := some "HOST01$", computerDn := some "CN=HOST01,CN=Computers,DC=corp,DC=example,DC=com" }
    [.ldapAdd "CN=HOST01,CN=Computers,DC=corp,DC=example,DC=com" (pruneEmptyMods (computerAccountMods (some "HOST01$")))]
    _ rfl).2.2.2.1 rfl rfl (by decide)⟩⟩

end Writes

end Adcli

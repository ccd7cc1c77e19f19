/-
`adcli_enroll_join`: clear what an earlier run derived, discover the domain, prepare the
names, connect, place the computer account, create or update it, set its password, read
it back, update its attributes, and rewrite the keytab. Each stage of the join returns at
once on a failure; the running-result discipline of `adcli_enroll_prepare` does not hold
at `ensure_computer_sam`, which replaces a failed computer name by the SAM name
`"(null)$"`, so that a host name with no usable dot yields an account named `(null)`.
-/
import Adcli.Prepare
import Adcli.Directory
import Adcli.Kvno
import Adcli.Keytab

namespace Adcli

/-- The functions `set_password_with_computer_creds` and `set_password_with_user_creds`,
as `set_computer_password` chooses by the login type: a change-password ticket and
`krb5_change_password`, or `krb5_set_password_using_ccache` on the computer principal.
A transport error is a directory failure, a refused password a credentials one. `none`
is the user path's `assert`s (password, principal) failing, or the computer path reading a
`NULL` password. -/
def setComputerPassword (env : Env) (log : List Write) (e : Enroll) : Option (AdcliResult × List Write) :=
  if env.computerLogin then
    if env.kinitChangepw log ≠ 0 then some (.errDirectory, log)
    else
      match e.computerPassword with
      | none => none
      | some password =>
        let (code, resultCode) := env.changePassword log password
        some (if code ≠ 0 then .errDirectory else if resultCode ≠ 0 then .errCredentials else .success,
          log ++ [.changePassword password])
  else
    match e.computerPassword, e.computerPrincipal with
    | some password, some principal =>
      let (code, resultCode) := env.setPassword log principal password
      some (if code ≠ 0 then .errDirectory else if resultCode ≠ 0 then .errCredentials else .success,
        log ++ [.setPassword principal password])
    | _, _ => none

/-- The block of `adcli_enroll_join` that places the account when no DN is set: validate
the preferred OU or look it up, find the computer container, and build the DN. -/
def placeComputerAccount (env : Env) (log : List Write) (e : Enroll) : Option (AdcliResult × Enroll) :=
  if e.computerDn.isSome then some (.success, e)
  else do
    let (res, e) ← (if e.preferredOu.isSome then validatePreferredOu env log e else lookupPreferredOu env log e)
    if res ≠ .success then return (res, e)
    let (res, e) ← lookupComputerContainer env log e
    if res ≠ .success then return (res, e)
    calcComputerAccount e

/-- The attribute updates whose failures `adcli_enroll_join` ignores. -/
def updateAccountAttributes (env : Env) (e : Enroll) (log : List Write) : Enroll × List Write :=
  let (_, e, log) := updateAndCalculateEnctypes env e log
  let (_, log) := updateDnsHostName env e log
  let (_, log) := updateServicePrincipals env e log
  (e, log)

/-- The function `adcli_enroll_join`. `none` is an `assert` failing, or a `NULL` read. -/
def adcliEnrollJoin (env : Env) (flags : Flags) (e : Enroll) (w : World) :
    Option (AdcliResult × Enroll × World) := do
  let e := enrollClearState e
  let res := env.discover w.log
  if res ≠ .success then return (res, e, w)
  let (res, e, w) ← adcliEnrollPrepare env flags e w
  if res ≠ .success then return (res, e, w)
  let res := env.connect w.log
  if res ≠ .success then return (res, e, w)
  let (res, e) ← placeComputerAccount env w.log e
  if res ≠ .success then return (res, e, w)
  let (res, log) ← createOrUpdateComputerAccount env flags.allowOverwrite e w.log
  let w := { w with log }
  if res ≠ .success then return (res, e, w)
  let (res, log) ← setComputerPassword env w.log e
  let w := { w with log }
  if res ≠ .success then return (res, e, w)
  let (res, e) ← retrieveComputerAccountInfo env w.log e
  if res ≠ .success then return (res, e, w)
  let (e, log) := updateAccountAttributes env e w.log
  let w := { w with log }
  if flags.noKeytab then return (.success, e, w)
  let (res, keytab) ← updateKeytabForPrincipals env w.log e w.keytab
  return (res, e, { w with keytab })

/-! ## The stages of the join -/

section Stages

variable (env : Env) (log : List Write) (e : Enroll)

/-- The placement changes only the OU, its validation, the container and the DN, and sets
the DN when it succeeds; its `assert`s always hold. -/
theorem placeComputerAccount_eq :
    ∃ r e', placeComputerAccount env log e = some (r, e') ∧
      (∃ ou v cc dn, e' = { e with preferredOu := ou, preferredOuValidated := v,
                                   computerContainer := cc, computerDn := dn }) ∧
      (r = .success → e'.computerDn.isSome) := by
  unfold placeComputerAccount
  by_cases hdn : e.computerDn.isSome
  · exact ⟨_, _, if_pos hdn, ⟨_, _, _, _, rfl⟩, fun _ => hdn⟩
  rw [if_neg hdn]
  have hstage : ∃ r1 e1, (if e.preferredOu.isSome then validatePreferredOu env log e
      else lookupPreferredOu env log e) = some (r1, e1) ∧ (r1 = .success → e1.preferredOu.isSome) ∧
      ∃ ou v, e1 = { e with preferredOu := ou, preferredOuValidated := v } := by
    by_cases hou : e.preferredOu.isSome
    · obtain ⟨r, v, h⟩ := validatePreferredOu_eq env log e hou
      exact ⟨r, { e with preferredOuValidated := v }, by rw [if_pos hou, h], fun _ => hou, _, _, rfl⟩
    · obtain ⟨r, ou, h, hr⟩ := lookupPreferredOu_eq env log e (by simpa using hou)
      exact ⟨r, { e with preferredOu := ou }, by rw [if_neg hou, h], hr, _, _, rfl⟩
  obtain ⟨r1, e1, h1, hou1, ou, v, rfl⟩ := hstage
  simp only [h1, Option.bind_eq_bind, Option.some_bind]
  by_cases hr1 : r1 = .success
  · obtain ⟨r2, cc, h2, hcc⟩ := lookupComputerContainer_eq env log _ (hou1 hr1)
    simp only [hr1, ne_eq, not_true_eq_false, if_false, h2, Option.bind_eq_bind, Option.some_bind]
    by_cases hr2 : r2 = .success
    · obtain ⟨dn, h3⟩ := calcComputerAccount_eq
        { e with preferredOu := ou, preferredOuValidated := v, computerContainer := cc } (hcc hr2)
      simp only [hr2, ne_eq, not_true_eq_false, if_false, h3]
      exact ⟨_, _, rfl, ⟨_, _, _, _, rfl⟩, fun _ => rfl⟩
    · rw [if_pos hr2]
      exact ⟨_, _, rfl, ⟨_, _, _, _, rfl⟩, fun h => absurd h hr2⟩
  · rw [if_pos hr1]
    exact ⟨_, _, rfl, ⟨_, _, _, _, rfl⟩, fun h => absurd h hr1⟩

/-- The password change aborts only without a password or, on the user path, a principal. -/
theorem setComputerPassword_ne_none (hpw : e.computerPassword.isSome) (hp : e.computerPrincipal.isSome) :
    setComputerPassword env log e ≠ none := by
  obtain ⟨pw, hpw⟩ := Option.isSome_iff_exists.mp hpw
  obtain ⟨p, hp⟩ := Option.isSome_iff_exists.mp hp
  unfold setComputerPassword
  simp only [hpw, hp]
  split_ifs <;> exact Option.some_ne_none _

/-- Reading the account back changes only the cached attributes and the kvno; with a DN
set and no attributes cached, its `assert`s hold. -/
theorem retrieveComputerAccountInfo_eq (hdn : e.computerDn.isSome) (hattrs : e.computerAttributes = none) :
    ∃ r e', retrieveComputerAccountInfo env log e = some (r, e') ∧
      ∃ a k, e' = { e with computerAttributes := a, kvno := k } := by
  obtain ⟨dn, hdn⟩ := Option.isSome_iff_exists.mp hdn
  unfold retrieveComputerAccountInfo
  simp only [hdn, hattrs, Option.isSome_none, Bool.false_eq_true, if_false]
  split_ifs
  · exact ⟨_, _, rfl, _, _, rfl⟩
  · exact ⟨_, _, rfl, _, _, rfl⟩
  · split
    · exact ⟨_, _, rfl, _, _, rfl⟩
    · split_ifs
      · exact ⟨_, _, rfl, _, _, rfl⟩
      · exact ⟨_, _, rfl, _, _, rfl⟩

/-- With a DN set, creating or updating the account never aborts. -/
theorem createOrUpdateComputerAccount_ne_none (allowOverwrite : Bool) (hdn : e.computerDn.isSome) :
    createOrUpdateComputerAccount env allowOverwrite e log ≠ none := by
  obtain ⟨dn, hdn⟩ := Option.isSome_iff_exists.mp hdn
  unfold createOrUpdateComputerAccount
  simp only [hdn]
  split_ifs
  all_goals try split
  all_goals exact Option.some_ne_none _

/-- With a password and the keytab principals set, the keytab update never aborts. -/
theorem updateKeytabForPrincipals_ne_none (kt : List KeytabEntry) (hpw : e.computerPassword.isSome)
    (hkp : e.keytabPrincipals.isSome) : updateKeytabForPrincipals env log e kt ≠ none := by
  obtain ⟨ps, hkp⟩ := Option.isSome_iff_exists.mp hkp
  rw [updateKeytabForPrincipals, hkp]
  exact updateKeytabLoop_ne_none env log e hpw _ _ _

/-- Reading the account back, when it returns, changes only the cached attributes and the
kvno. -/
theorem retrieveComputerAccountInfo_frame {r : AdcliResult} {e' : Enroll}
    (h : retrieveComputerAccountInfo env log e = some (r, e')) :
    ∃ a k, e' = { e with computerAttributes := a, kvno := k } := by
  unfold retrieveComputerAccountInfo at h
  split at h
  · cases h
  dsimp only at h
  split_ifs at h
  all_goals try (cases h; exact ⟨_, _, rfl⟩)
  split at h
  · cases h; exact ⟨_, _, rfl⟩
  · split_ifs at h <;> (cases h; exact ⟨_, _, rfl⟩)

/-- The attribute updates change only the enctypes. -/
theorem updateAccountAttributes_fst :
    ∃ k, (updateAccountAttributes env e log).1 = { e with keytabEnctypes := k } :=
  updateAndCalculateEnctypes_fst env e log

end Stages

/-! ## A whole run of the join -/

section Run

variable (env : Env) (flags : Flags) (e : Enroll) (w : World)

/-- A stage that returns at once on a failure returns, if what follows it does. -/
theorem ite_not_success_ne_none {α : Type} {r : AdcliResult} {a : α} {b : Option α}
    (hb : r = .success → b ≠ none) : (if ¬r = .success then some a else b) ≠ none := by
  by_cases hr : r = .success
  · rw [if_neg (not_not.mpr hr)]; exact hb hr
  · rw [if_pos hr]; exact Option.some_ne_none _

/-- **The join aborts only where prepare does.** Once `adcli_enroll_prepare` has returned,
no `assert` of the join fails and no `NULL` is read: the placement, the account's
creation, the password, the read-back and the keytab update all find what they need. -/
theorem adcliEnrollJoin_eq_none_iff :
    adcliEnrollJoin env flags e w = none ↔
      env.discover w.log = .success ∧ adcliEnrollPrepare env flags (enrollClearState e) w = none := by
  unfold adcliEnrollJoin
  simp only [ne_eq, Option.pure_def, Option.bind_eq_bind, Option.some_bind]
  by_cases hd : env.discover w.log = .success
  swap
  · simp only [hd, not_false_eq_true, if_true, reduceCtorEq, false_and]
  rw [if_neg (not_not.mpr hd)]
  rcases hp : adcliEnrollPrepare env flags (enrollClearState e) w with _ | ⟨r1, e1, w1⟩
  · simp only [hd, Option.none_bind, true_and]
  simp only [Option.some_bind, reduceCtorEq, and_false, iff_false]
  refine ite_not_success_ne_none fun hr1 => ?_
  obtain ⟨hpw, hcp, hkp, -, hattrs⟩ := adcliEnrollPrepare_success_fields (hr1 ▸ hp)
  refine ite_not_success_ne_none fun _ => ?_
  obtain ⟨r2, e2, h2, ⟨ou, v, cc, dn, he2⟩, hdn2⟩ := placeComputerAccount_eq env w1.log e1
  rw [h2, Option.some_bind]
  refine ite_not_success_ne_none fun hr2 => ?_
  obtain ⟨⟨r3, log3⟩, h3⟩ := Option.ne_none_iff_exists'.mp
    (createOrUpdateComputerAccount_ne_none env w1.log e2 flags.allowOverwrite (hdn2 hr2))
  rw [h3, Option.some_bind]
  refine ite_not_success_ne_none fun _ => ?_
  obtain ⟨⟨r4, log4⟩, h4⟩ := Option.ne_none_iff_exists'.mp
    (setComputerPassword_ne_none env log3 e2 (he2 ▸ hpw) (he2 ▸ hcp))
  rw [h4, Option.some_bind]
  refine ite_not_success_ne_none fun _ => ?_
  obtain ⟨r5, e5, h5, a, k, he5⟩ :=
    retrieveComputerAccountInfo_eq env log4 e2 (hdn2 hr2) (he2 ▸ hattrs)
  rw [h5, Option.some_bind]
  refine ite_not_success_ne_none fun _ => ?_
  split
  · exact Option.some_ne_none _
  obtain ⟨k', hk'⟩ := updateAccountAttributes_fst env log4 e5
  obtain ⟨⟨r6, kt⟩, h6⟩ := Option.ne_none_iff_exists'.mp (updateKeytabForPrincipals_ne_none env
    (updateAccountAttributes env e5 log4).2 (updateAccountAttributes env e5 log4).1 w1.keytab
    (by rw [hk', he5, he2]; exact hpw) (by rw [hk', he5, he2]; exact hkp))
  simp only [h6, Option.some_bind, ne_eq, reduceCtorEq, not_false_eq_true]

/-- A stage that returns at once on a failure either failed and returned, or succeeded and
went on. -/
theorem ite_not_success_eq_some {α : Type} {r : AdcliResult} {a c : α} {b : Option α}
    (h : (if ¬r = .success then some a else b) = some c) :
    (r ≠ .success ∧ a = c) ∨ (r = .success ∧ b = some c) := by
  by_cases hr : r = .success
  · rw [if_neg (not_not.mpr hr)] at h; exact .inr ⟨hr, h⟩
  · rw [if_pos hr, Option.some.injEq] at h; exact .inl ⟨hr, h⟩

/-- The stages of a join before the account is touched all succeeded: discovery, prepare
(which left `e1` and `w1`), the connect and the placement (which left `e2`). -/
structure JoinPlaced (e1 : Enroll) (w1 : World) (e2 : Enroll) : Prop where
  discover : env.discover w.log = .success
  prepare : adcliEnrollPrepare env flags (enrollClearState e) w = some (.success, e1, w1)
  connect : env.connect w1.log = .success
  place : placeComputerAccount env w1.log e1 = some (.success, e2)

/-- A placement that succeeded set the DN. -/
theorem JoinPlaced.dn {env : Env} {flags : Flags} {e e1 e2 : Enroll} {w w1 : World}
    (hP : JoinPlaced env flags e w e1 w1 e2) : e2.computerDn.isSome := by
  obtain ⟨_, _, h2, -, hdn⟩ := placeComputerAccount_eq env w1.log e1
  rw [hP.place] at h2
  cases h2
  exact hdn rfl

/-- The places `adcli_enroll_join` returns from, each with the stages that ran before it and
what they answered: a failure of discovery, prepare, the connect, the placement, the
account's creation or update, the password change or the read-back; or the end, under
`ADCLI_ENROLL_NO_KEYTAB` without the keytab and otherwise with the keytab update's
result. -/
inductive JoinExit : AdcliResult → Enroll → World → Prop
  | discover {r : AdcliResult} : env.discover w.log = r → r ≠ .success → JoinExit r (enrollClearState e) w
  | prepare {r : AdcliResult} {e1 : Enroll} {w1 : World} : env.discover w.log = .success →
      adcliEnrollPrepare env flags (enrollClearState e) w = some (r, e1, w1) → r ≠ .success → JoinExit r e1 w1
  | connect {r : AdcliResult} {e1 : Enroll} {w1 : World} : env.discover w.log = .success →
      adcliEnrollPrepare env flags (enrollClearState e) w = some (.success, e1, w1) →
      env.connect w1.log = r → r ≠ .success → JoinExit r e1 w1
  | place {r : AdcliResult} {e1 e2 : Enroll} {w1 : World} : env.discover w.log = .success →
      adcliEnrollPrepare env flags (enrollClearState e) w = some (.success, e1, w1) →
      env.connect w1.log = .success → placeComputerAccount env w1.log e1 = some (r, e2) → r ≠ .success →
      JoinExit r e2 w1
  | account {r : AdcliResult} {e1 e2 : Enroll} {w1 : World} {log3 : List Write} : JoinPlaced env flags e w e1 w1 e2 →
      createOrUpdateComputerAccount env flags.allowOverwrite e2 w1.log = some (r, log3) → r ≠ .success →
      JoinExit r e2 { w1 with log := log3 }
  | password {r : AdcliResult} {e1 e2 : Enroll} {w1 : World} {log3 log4 : List Write} :
      JoinPlaced env flags e w e1 w1 e2 →
      createOrUpdateComputerAccount env flags.allowOverwrite e2 w1.log = some (.success, log3) →
      setComputerPassword env log3 e2 = some (r, log4) → r ≠ .success → JoinExit r e2 { w1 with log := log4 }
  | retrieve {r : AdcliResult} {e1 e2 e5 : Enroll} {w1 : World} {log3 log4 : List Write} :
      JoinPlaced env flags e w e1 w1 e2 →
      createOrUpdateComputerAccount env flags.allowOverwrite e2 w1.log = some (.success, log3) →
      setComputerPassword env log3 e2 = some (.success, log4) →
      retrieveComputerAccountInfo env log4 e2 = some (r, e5) → r ≠ .success → JoinExit r e5 { w1 with log := log4 }
  | noKeytab {e1 e2 e5 : Enroll} {w1 : World} {log3 log4 : List Write} : JoinPlaced env flags e w e1 w1 e2 →
      createOrUpdateComputerAccount env flags.allowOverwrite e2 w1.log = some (.success, log3) →
      setComputerPassword env log3 e2 = some (.success, log4) →
      retrieveComputerAccountInfo env log4 e2 = some (.success, e5) → flags.noKeytab = true →
      JoinExit .success (updateAccountAttributes env e5 log4).1 { w1 with log := (updateAccountAttributes env e5 log4).2 }
  | keytab {r : AdcliResult} {e1 e2 e5 : Enroll} {w1 : World} {log3 log4 : List Write} {kt : List KeytabEntry} :
      JoinPlaced env flags e w e1 w1 e2 →
      createOrUpdateComputerAccount env flags.allowOverwrite e2 w1.log = some (.success, log3) →
      setComputerPassword env log3 e2 = some (.success, log4) →
      retrieveComputerAccountInfo env log4 e2 = some (.success, e5) → flags.noKeytab = false →
      updateKeytabForPrincipals env (updateAccountAttributes env e5 log4).2 (updateAccountAttributes env e5 log4).1
        w1.keytab = some (r, kt) →
      JoinExit r (updateAccountAttributes env e5 log4).1
        { w1 with log := (updateAccountAttributes env e5 log4).2, keytab := kt }

/-- Every run of the join that returns ends at one of its `return`s. -/
theorem adcliEnrollJoin_exit {r : AdcliResult} {e' : Enroll} {w' : World}
    (h : adcliEnrollJoin env flags e w = some (r, e', w')) : JoinExit env flags e w r e' w' := by
  unfold adcliEnrollJoin at h
  dsimp only [ne_eq, Option.pure_def, Option.bind_eq_bind, Option.some_bind] at h
  rcases ite_not_success_eq_some h with ⟨hd, ⟨⟩⟩ | ⟨hd, h⟩
  · exact .discover rfl hd
  obtain ⟨⟨r1, e1, w1⟩, hp, h⟩ := Option.bind_eq_some.mp h
  rcases ite_not_success_eq_some h with ⟨hr, ⟨⟩⟩ | ⟨rfl, h⟩
  · exact .prepare hd hp hr
  rcases ite_not_success_eq_some h with ⟨hc, ⟨⟩⟩ | ⟨hc, h⟩
  · exact .connect hd hp rfl hc
  obtain ⟨⟨r2, e2⟩, h2, h⟩ := Option.bind_eq_some.mp h
  rcases ite_not_success_eq_some h with ⟨hr, ⟨⟩⟩ | ⟨rfl, h⟩
  · exact .place hd hp hc h2 hr
  have hP : JoinPlaced env flags e w e1 w1 e2 := ⟨hd, hp, hc, h2⟩
  obtain ⟨⟨r3, log3⟩, h3, h⟩ := Option.bind_eq_some.mp h
  rcases ite_not_success_eq_some h with ⟨hr, ⟨⟩⟩ | ⟨rfl, h⟩
  · exact .account hP h3 hr
  obtain ⟨⟨r4, log4⟩, h4, h⟩ := Option.bind_eq_some.mp h
  rcases ite_not_success_eq_some h with ⟨hr, ⟨⟩⟩ | ⟨rfl, h⟩
  · exact .password hP h3 h4 hr
  obtain ⟨⟨r5, e5⟩, h5, h⟩ := Option.bind_eq_some.mp h
  rcases ite_not_success_eq_some h with ⟨hr, ⟨⟩⟩ | ⟨rfl, h⟩
  · exact .retrieve hP h3 h4 h5 hr
  split at h
  next hk => cases h; exact .noKeytab hP h3 h4 h5 hk
  next hk =>
    obtain ⟨⟨r6, kt⟩, h6, h⟩ := Option.bind_eq_some.mp h
    cases h
    exact .keytab hP h3 h4 h5 (Bool.eq_false_iff.mpr hk) h6

/-- **The keytab changes only after the account is in place.** A join that changes the
keytab ran without `ADCLI_ENROLL_NO_KEYTAB`, and discovery, prepare, connect, the
placement, the account's creation or update, the password change and the read-back of
the account, which gives the kvno, all succeeded before it. -/
theorem adcliEnrollJoin_keytab {e' : Enroll} {w' : World} {r : AdcliResult}
    (h : adcliEnrollJoin env flags e w = some (r, e', w')) (hk : w'.keytab ≠ w.keytab) :
    flags.noKeytab = false ∧ env.discover w.log = .success ∧
      ∃ e1 w1, adcliEnrollPrepare env flags (enrollClearState e) w = some (.success, e1, w1) ∧
        env.connect w1.log = .success ∧
        ∃ e2, placeComputerAccount env w1.log e1 = some (.success, e2) ∧
        ∃ log1, createOrUpdateComputerAccount env flags.allowOverwrite e2 w1.log = some (.success, log1) ∧
        ∃ log2, setComputerPassword env log1 e2 = some (.success, log2) ∧
        ∃ e3, retrieveComputerAccountInfo env log2 e2 = some (.success, e3) := by
  cases adcliEnrollJoin_exit env flags e w h with
  | discover => exact (hk rfl).elim
  | prepare _ hp | connect _ hp | place _ hp => exact (hk (adcliEnrollPrepare_world hp).2).elim
  | account hP | password hP | retrieve hP | noKeytab hP => exact (hk (adcliEnrollPrepare_world hP.prepare).2).elim
  | keytab hP h3 h4 h5 hnk => exact ⟨hnk, hP.discover, _, _, hP.prepare, hP.connect, _, hP.place, _, h3, _, h4, _, h5⟩

end Run

/-- A join on the host `host01.corp.example.com` rewrites the keytab, so the stages before
it all succeeded. -/
theorem adcliEnrollJoin_keytab_host01 :
    ∃ r e' w', adcliEnrollJoin sampleEnv {} (adcliEnrollSetComputerPassword
        (adcliEnrollSetHostFqdn adcliEnrollNew (some "host01.corp.example.com")) (some "secret"))
        ⟨[], [], []⟩ = some (r, e', w') ∧ w'.keytab ≠ [] ∧ ({} : Flags).noKeytab = false := by
  refine ⟨_, _, _, rfl, ?hk, (adcliEnrollJoin_keytab sampleEnv {} (adcliEnrollSetComputerPassword
    (adcliEnrollSetHostFqdn adcliEnrollNew (some "host01.corp.example.com")) (some "secret"))
    ⟨[], [], []⟩ rfl ?hk).1⟩
  exact List.ne_nil_of_length_pos (by decide)

/-- The host `host01`, which has no dot, with no computer name and an explicit password:
`ensure_computer_name` fails with `ADCLI_ERR_CONFIG`, yet the join succeeds, and the
first thing it writes to the directory is the add of the account `CN=(null)` with the SAM
name `(null)$`. -/
theorem adcliEnrollJoin_host01_null_account :
    (ensureComputerName .success (adcliEnrollSetComputerPassword
        (adcliEnrollSetHostFqdn adcliEnrollNew (some "host01")) (some "secret"))).1 = .errConfig ∧
    (adcliEnrollJoin sampleEnv {} (adcliEnrollSetComputerPassword
        (adcliEnrollSetHostFqdn adcliEnrollNew (some "host01")) (some "secret")) ⟨[], [], []⟩).map
      (fun r => (r.1, r.2.2.log.head?)) =
      some (.success, some (.ldapAdd "CN=(null),CN=Computers,DC=corp,DC=example,DC=com"
        (computerAccountMods (some "(null)$")))) :=
  ⟨rfl, rfl⟩

end Adcli

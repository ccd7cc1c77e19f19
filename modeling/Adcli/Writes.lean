/-
What `adcli_enroll_join` sends to the directory and the KDC, whatever they answer. Every
write of a join is about the account the join leaves in its context: at most one add or
modify of the account at its DN, then at most one password write carrying its password,
then replaces of its attributes with its own values, in that order, and the attributes
only once a password write has been sent. Nothing else is ever written.
-/
import Adcli.Join

namespace Adcli

/-! ## The writes of each stage -/

/-- The writes `create_or_update_computer_account` may send for an account at DN `dn` with
SAM name `sam`: none, the add of the account, or one modify of some of its mods, in their
order, each a replace. -/
def AccountWrites (dn sam : Option String) (ws : List Write) : Prop :=
  ws = [] ∨ ∃ d, dn = some d ∧
    (ws = [.ldapAdd d (pruneEmptyMods (computerAccountMods sam))] ∨
      ∃ diff, diff ≠ [] ∧ diff.Sublist (computerAccountMods sam) ∧
        ws = [.ldapModify d (diff.map fun m => { m with op := ldapModReplace })])

/-- The write `set_computer_password` sends for context `e`: a change of its password on a
computer login, else a set of its password on its principal. -/
def passwordWrite (env : Env) (e : Enroll) : Option Write :=
  if env.computerLogin then e.computerPassword.map .changePassword
  else e.computerPrincipal.bind fun p => e.computerPassword.map (.setPassword p)

/-- The replaces of the account's attributes the join may send for context `e`, in order:
the encoding of the enctypes in use when they have one, the host name, the service
principals. -/
def attributeMods (env : Env) (e : Enroll) : List LdapMod :=
  (env.formatEnctypes (adcliEnrollGetKeytabEnctypes e)).toList.map
      (fun v => ⟨ldapModReplace, "msDS-supportedEncryptionTypes", [v]⟩) ++
    [⟨ldapModReplace, "dNSHostName", e.hostFqdn.toList⟩,
      ⟨ldapModReplace, "servicePrincipalName", e.servicePrincipals.getD []⟩]

/-- The writes of a join that leaves context `e`, in the order it sends them: the account's
writes, at most one password write, and some of the attribute replaces, each a modify of
the account with one mod, sent only after the password write. -/
def JoinWrites (env : Env) (e : Enroll) (ws : List Write) : Prop :=
  ∃ acct pw attrs, ws = acct ++ pw ++ attrs ∧ AccountWrites e.computerDn e.computerSam acct ∧
    pw.Sublist (passwordWrite env e).toList ∧
    attrs.Sublist ((attributeMods env e).map fun m => .ldapModify (cstr e.computerDn) [m]) ∧
    (attrs ≠ [] → pw ≠ [])

section Stages

variable (env : Env) (e : Enroll) (log : List Write)

theorem JoinWrites.nil : JoinWrites env e [] :=
  ⟨[], [], [], rfl, .inl rfl, List.nil_sublist _, List.nil_sublist _, fun h => absurd rfl h⟩

/-- The account's writes, and a password write that may have failed, end a join's writes. -/
theorem JoinWrites.of_account {acct pw : List Write} (hacct : AccountWrites e.computerDn e.computerSam acct)
    (hpw : pw.Sublist (passwordWrite env e).toList) : JoinWrites env e (acct ++ pw) :=
  ⟨acct, pw, [], (List.append_nil _).symm, hacct, hpw, List.nil_sublist _, fun h => absurd rfl h⟩

/-- The DN an LDAP add or modify goes to; a password write goes to none. -/
def Write.ldapDn : Write → Option String
  | .ldapAdd dn _ => some dn
  | .ldapModify dn _ => some dn
  | .setPassword _ _ => none
  | .changePassword _ => none

theorem passwordWrite_ldapDn {x : Write} (h : x ∈ (passwordWrite env e).toList) : x.ldapDn = none := by
  rcases hpw : passwordWrite env e with _ | y
  · rw [hpw] at h; cases h
  rw [hpw, Option.toList_some, List.mem_singleton] at h
  subst h
  unfold passwordWrite at hpw
  split_ifs at hpw
  · obtain ⟨pw, -, rfl⟩ := Option.map_eq_some'.mp hpw; rfl
  · obtain ⟨p, -, hp⟩ := Option.bind_eq_some.mp hpw
    obtain ⟨pw, -, rfl⟩ := Option.map_eq_some'.mp hp; rfl

/-- Every add and modify of a join's writes goes to the DN of the context it leaves. -/
theorem JoinWrites.ldapDn {ws : List Write} {dn : String} (h : JoinWrites env e ws)
    (hdn : e.computerDn = some dn) : ∀ x ∈ ws, ∀ d, x.ldapDn = some d → d = dn := by
  obtain ⟨acct, pw, attrs, rfl, hacct, hpw, hattrs, -⟩ := h
  intro x hx d hd
  rcases List.mem_append.mp hx with hx | hx
  · rcases List.mem_append.mp hx with hx | hx
    · rcases hacct with rfl | ⟨d', hd', rfl | ⟨diff, -, -, rfl⟩⟩
      · cases hx
      all_goals
        rw [hdn, Option.some.injEq] at hd'
        rw [List.mem_singleton.mp hx, Write.ldapDn, Option.some.injEq] at hd
        rw [← hd, hd']
    · rw [passwordWrite_ldapDn env e (hpw.subset hx)] at hd
      cases hd
  · obtain ⟨m, -, rfl⟩ := List.mem_map.mp (hattrs.subset hx)
    rw [Write.ldapDn, Option.some.injEq, hdn] at hd
    exact hd.symm

/-- `create_or_update_computer_account` sends only the account's writes. -/
theorem createOrUpdateComputerAccount_log {allowOverwrite : Bool} {r : AdcliResult} {log' : List Write}
    (h : createOrUpdateComputerAccount env allowOverwrite e log = some (r, log')) :
    ∃ acct, log' = log ++ acct ∧ AccountWrites e.computerDn e.computerSam acct := by
  cases hdn : e.computerDn with
  | none => simp only [createOrUpdateComputerAccount, hdn, reduceCtorEq] at h
  | some dn =>
    rw [createOrUpdateComputerAccount_eq env e log allowOverwrite hdn, Option.some.injEq] at h
    have hnone : ∀ {x : AdcliResult}, (x, log) = (r, log') →
        ∃ acct, log' = log ++ acct ∧ AccountWrites (some dn) e.computerSam acct :=
      fun hx => ⟨[], by rw [(Prod.mk.inj hx).2.symm, List.append_nil], .inl rfl⟩
    split_ifs at h with h1 h2 h3 h4
    · have h' := congrArg Prod.snd h
      simp only [createComputerAccount, nullTerminated_map_append] at h'
      exact ⟨_, h'.symm, .inr ⟨dn, rfl, .inl rfl⟩⟩
    · exact hnone h
    · exact hnone h
    · have h' := congrArg Prod.snd h
      simp only [modifyComputerAccount, nullTerminated_map_append] at h'
      refine ⟨_, h'.symm, .inr ⟨dn, rfl, .inr ⟨_, h4, List.filter_sublist _, ?_⟩⟩⟩
      exact congrArg (fun ms => [Write.ldapModify dn ms]) (List.map_congr_left fun m hm =>
        replace_computerAccountMods (List.mem_of_mem_filter hm))
    · exact hnone h

/-- `set_computer_password` sends at most the context's password write, and sends it when
it succeeds. -/
theorem setComputerPassword_log {r : AdcliResult} {log' : List Write}
    (h : setComputerPassword env log e = some (r, log')) :
    ∃ pw, log' = log ++ pw ∧ pw.Sublist (passwordWrite env e).toList ∧ (r = .success → pw ≠ []) := by
  unfold setComputerPassword at h
  split_ifs at h with hc hk
  · cases h
    exact ⟨[], (List.append_nil _).symm, List.nil_sublist _, fun h => absurd h (by decide)⟩
  · split at h
    · cases h
    · rename_i pw hpw
      cases h
      exact ⟨_, rfl, by simp [passwordWrite, hc, hpw], fun _ => List.cons_ne_nil _ _⟩
  · split at h
    · rename_i pw p hpw hp
      cases h
      exact ⟨_, rfl, by simp [passwordWrite, hc, hpw, hp], fun _ => List.cons_ne_nil _ _⟩
    · cases h

/-- A one-mod update sends at most its replace. -/
theorem updateAccountAttribute_sublist (type : String) (values : List String) :
    ∃ ws, (updateAccountAttribute env e log type values).2 = log ++ ws ∧
      ws.Sublist [.ldapModify (cstr e.computerDn) [⟨ldapModReplace, type, values⟩]] := by
  rw [updateAccountAttribute_eq]
  split_ifs
  · exact ⟨[], (List.append_nil _).symm, List.nil_sublist _⟩
  · exact ⟨_, rfl, List.Sublist.refl _⟩

/-- The attribute updates send some of the attribute replaces of the context they leave. -/
theorem updateAccountAttributes_log :
    ∃ attrs, (updateAccountAttributes env e log).2 = log ++ attrs ∧
      attrs.Sublist ((attributeMods env (updateAccountAttributes env e log).1).map
        fun m => .ldapModify (cstr (updateAccountAttributes env e log).1.computerDn) [m]) := by
  obtain ⟨k, hk⟩ := updateAndCalculateEnctypes_fst env e log
  have hsame : (updateAndCalculateEnctypes env e log).2.1.computerDn = e.computerDn := by rw [hk]
  obtain ⟨enc, henc, hencs⟩ : ∃ enc, (updateAndCalculateEnctypes env e log).2.2 = log ++ enc ∧
      enc.Sublist (((env.formatEnctypes (adcliEnrollGetKeytabEnctypes
        (updateAndCalculateEnctypes env e log).2.1)).toList.map
          (fun v => ⟨ldapModReplace, "msDS-supportedEncryptionTypes", [v]⟩)).map
          fun m => .ldapModify (cstr e.computerDn) [m]) := by
    rcases updateAndCalculateEnctypes_writes env e log with h | ⟨v, hv, -, -, h⟩
    · exact ⟨[], by rw [h, List.append_nil], List.nil_sublist _⟩
    · exact ⟨_, h, by rw [hv]; exact List.Sublist.refl _⟩
  rcases hu : updateAndCalculateEnctypes env e log with ⟨_, e1, log1⟩
  rw [hu] at hsame henc hencs
  dsimp only at hsame henc hencs
  rw [← hsame] at hencs
  obtain ⟨dns, hdns, hdnss⟩ := updateAccountAttribute_sublist env e1 log1 "dNSHostName" e1.hostFqdn.toList
  obtain ⟨spn, hspn, hspns⟩ := updateAccountAttribute_sublist env e1 (log1 ++ dns) "servicePrincipalName"
    (e1.servicePrincipals.getD [])
  refine ⟨enc ++ dns ++ spn, ?_, ?_⟩
  · simp only [updateAccountAttributes, hu, updateDnsHostName, updateServicePrincipals, hdns, hspn]
    rw [henc]; simp only [List.append_assoc]
  · simp only [updateAccountAttributes, hu]
    rw [attributeMods, List.map_append, List.append_assoc]
    exact hencs.append (hdnss.append hspns)

end Stages

/-! ## A whole run -/

section Run

variable (env : Env) (flags : Flags) (e : Enroll) (w : World)

/-- What a join does to the world, wherever it stops: the writes it appends to the log are
the account's (`JoinWrites`), and the keytab it leaves is the one it was given, or what
`update_keytab_for_principals` made of it with the context the join returns, after the
password write of that context was sent. -/
theorem adcliEnrollJoin_world {r : AdcliResult} {e' : Enroll} {w' : World}
    (h : adcliEnrollJoin env flags e w = some (r, e', w')) :
    (∃ ws, w'.log = w.log ++ ws ∧ JoinWrites env e' ws ∧ (ws ≠ [] → e'.computerDn.isSome)) ∧
      (w'.keytab = w.keytab ∨ (∃ log, updateKeytabForPrincipals env log e' w.keytab = some (r, w'.keytab)) ∧
        ∃ wr, passwordWrite env e' = some wr ∧ wr ∈ w'.log) := by
  have quiet : ∀ {e'' : Enroll}, ∃ ws, w.log = w.log ++ ws ∧ JoinWrites env e'' ws ∧
      (ws ≠ [] → e''.computerDn.isSome) :=
    ⟨[], (List.append_nil _).symm, JoinWrites.nil env _, fun h => absurd rfl h⟩
  have placed : ∀ {e1 w1 e2 r3 log3}, JoinPlaced env flags e w e1 w1 e2 →
      createOrUpdateComputerAccount env flags.allowOverwrite e2 w1.log = some (r3, log3) →
      w1.keytab = w.keytab ∧ e2.computerDn.isSome ∧
        ∃ acct, log3 = w.log ++ acct ∧ AccountWrites e2.computerDn e2.computerSam acct := fun hP h3 => by
    obtain ⟨hw1, hk1⟩ := adcliEnrollPrepare_world hP.prepare
    obtain ⟨acct, hlog3, hacct⟩ := createOrUpdateComputerAccount_log env _ _ h3
    exact ⟨hk1, hP.dn, acct, hw1 ▸ hlog3, hacct⟩
  have sent : ∀ {e1 w1 e2 log3 r4 log4}, JoinPlaced env flags e w e1 w1 e2 →
      createOrUpdateComputerAccount env flags.allowOverwrite e2 w1.log = some (.success, log3) →
      setComputerPassword env log3 e2 = some (r4, log4) →
      w1.keytab = w.keytab ∧ e2.computerDn.isSome ∧ ∃ acct pw, log4 = w.log ++ (acct ++ pw) ∧
        AccountWrites e2.computerDn e2.computerSam acct ∧ pw.Sublist (passwordWrite env e2).toList ∧
        (r4 = .success → pw ≠ []) := fun hP h3 h4 => by
    obtain ⟨hk1, hdn, acct, hlog3, hacct⟩ := placed hP h3
    obtain ⟨pw, hlog4, hpw, hpw4⟩ := setComputerPassword_log env _ _ h4
    exact ⟨hk1, hdn, acct, pw, by rw [hlog4, hlog3, List.append_assoc], hacct, hpw, hpw4⟩
  /- The end of a join: the writes of every stage, and the password write among them. -/
  have final : ∀ {e1 w1 e2 log3 log4 e5}, JoinPlaced env flags e w e1 w1 e2 →
      createOrUpdateComputerAccount env flags.allowOverwrite e2 w1.log = some (.success, log3) →
      setComputerPassword env log3 e2 = some (.success, log4) →
      retrieveComputerAccountInfo env log4 e2 = some (.success, e5) →
      w1.keytab = w.keytab ∧ (∃ ws, (updateAccountAttributes env e5 log4).2 = w.log ++ ws ∧
        JoinWrites env (updateAccountAttributes env e5 log4).1 ws ∧
        (ws ≠ [] → (updateAccountAttributes env e5 log4).1.computerDn.isSome)) ∧
      ∃ wr, passwordWrite env (updateAccountAttributes env e5 log4).1 = some wr ∧
        wr ∈ (updateAccountAttributes env e5 log4).2 := fun {_ _ e2 _ log4 e5} hP h3 h4 h5 => by
    obtain ⟨hk1, hdn, acct, pw, hlog4, hacct, hpw, hpw4⟩ := sent hP h3 h4
    obtain ⟨attrs, hlog6, hattrs⟩ := updateAccountAttributes_log env e5 log4
    obtain ⟨ke, hke⟩ := updateAccountAttributes_fst env log4 e5
    obtain ⟨a, k, rfl⟩ := retrieveComputerAccountInfo_frame env _ _ h5
    have hpe : passwordWrite env { e2 with computerAttributes := a, kvno := k, keytabEnctypes := ke } =
        passwordWrite env e2 := rfl
    rw [hke] at hattrs ⊢
    rw [hlog6, hpe]
    refine ⟨hk1, ⟨acct ++ pw ++ attrs, by rw [hlog4, List.append_assoc],
      ⟨acct, pw, attrs, rfl, hacct, hpw, hattrs, fun _ => hpw4 rfl⟩, fun _ => hdn⟩, ?_⟩
    obtain ⟨x, hx⟩ := List.exists_mem_of_ne_nil pw (hpw4 rfl)
    cases hpwe : passwordWrite env e2 with
    | none => rw [hpwe] at hpw; exact absurd (hpw.subset hx) (List.not_mem_nil x)
    | some wr =>
      rw [hpwe] at hpw
      obtain rfl := List.mem_singleton.mp (hpw.subset hx)
      exact ⟨x, rfl, by simp [hlog4, hx]⟩
  cases adcliEnrollJoin_exit env flags e w h with
  | discover => exact ⟨quiet, .inl rfl⟩
  | prepare _ hp | connect _ hp | place _ hp =>
    obtain ⟨hw1, hk1⟩ := adcliEnrollPrepare_world hp
    exact ⟨hw1 ▸ quiet, .inl hk1⟩
  | account hP h3 =>
    obtain ⟨hk1, hdn, acct, hlog3, hacct⟩ := placed hP h3
    exact ⟨⟨acct ++ [], by rw [List.append_nil]; exact hlog3, JoinWrites.of_account env _ hacct (List.nil_sublist _),
      fun _ => hdn⟩, .inl hk1⟩
  | password hP h3 h4 =>
    obtain ⟨hk1, hdn, acct, pw, hlog4, hacct, hpw, -⟩ := sent hP h3 h4
    exact ⟨⟨acct ++ pw, hlog4, JoinWrites.of_account env _ hacct hpw, fun _ => hdn⟩, .inl hk1⟩
  | retrieve hP h3 h4 h5 =>
    obtain ⟨hk1, hdn, acct, pw, hlog4, hacct, hpw, -⟩ := sent hP h3 h4
    obtain ⟨a, k, rfl⟩ := retrieveComputerAccountInfo_frame env _ _ h5
    exact ⟨⟨acct ++ pw, hlog4, JoinWrites.of_account env _ hacct hpw, fun _ => hdn⟩, .inl hk1⟩
  | noKeytab hP h3 h4 h5 =>
    obtain ⟨hk1, hfin, -⟩ := final hP h3 h4 h5
    exact ⟨hfin, .inl hk1⟩
  | keytab hP h3 h4 h5 _ h6 =>
    obtain ⟨hk1, hfin, hwr⟩ := final hP h3 h4 h5
    exact ⟨hfin, .inr ⟨⟨_, by rw [← hk1]; exact h6⟩, hwr⟩⟩

/-- A join that writes anything ran the account's creation or update on the log it was
given, for a context with the DN of the one it returns, and stopped there unless that stage
succeeded; every later write comes after that stage's. -/
theorem adcliEnrollJoin_account {r : AdcliResult} {e' : Enroll} {w' : World}
    (h : adcliEnrollJoin env flags e w = some (r, e', w')) (hlog : w'.log ≠ w.log) :
    ∃ e2 r3 log3, e2.computerDn = e'.computerDn ∧
      createOrUpdateComputerAccount env flags.allowOverwrite e2 w.log = some (r3, log3) ∧
      (r3 ≠ .success → w'.log = log3) ∧ log3 <+: w'.log := by
  have placed : ∀ {e1 w1 e2 r3 log3}, JoinPlaced env flags e w e1 w1 e2 →
      createOrUpdateComputerAccount env flags.allowOverwrite e2 w1.log = some (r3, log3) →
      createOrUpdateComputerAccount env flags.allowOverwrite e2 w.log = some (r3, log3) :=
    fun hP h3 => (adcliEnrollPrepare_world hP.prepare).1 ▸ h3
  cases adcliEnrollJoin_exit env flags e w h with
  | discover => exact absurd rfl hlog
  | prepare _ hp | connect _ hp | place _ hp => exact absurd (adcliEnrollPrepare_world hp).1 hlog
  | account hP h3 => exact ⟨_, _, _, rfl, placed hP h3, fun _ => rfl, List.prefix_refl _⟩
  | password hP h3 h4 =>
    obtain ⟨pw, rfl, -⟩ := setComputerPassword_log env _ _ h4
    exact ⟨_, _, _, rfl, placed hP h3, fun h => absurd rfl h, List.prefix_append _ _⟩
  | retrieve hP h3 h4 h5 =>
    obtain ⟨pw, rfl, -⟩ := setComputerPassword_log env _ _ h4
    obtain ⟨a, k, rfl⟩ := retrieveComputerAccountInfo_frame env _ _ h5
    refine ⟨_, _, _, ?_, placed hP h3, fun h => absurd rfl h, List.prefix_append _ _⟩
    rfl
  | @noKeytab _ e2 e5 _ log3 _ hP h3 h4 h5 | @keytab _ _ e2 e5 _ log3 _ _ hP h3 h4 h5 =>
    obtain ⟨pw, rfl, -⟩ := setComputerPassword_log env _ _ h4
    obtain ⟨attrs, hlog6, -⟩ := updateAccountAttributes_log env e5 (log3 ++ pw)
    obtain ⟨ke, hke⟩ := updateAccountAttributes_fst env (log3 ++ pw) e5
    obtain ⟨a, k, rfl⟩ := retrieveComputerAccountInfo_frame env _ _ h5
    refine ⟨e2, _, _, by rw [hke], placed hP h3, fun h => absurd rfl h, pw ++ attrs, ?_⟩
    rw [hlog6, List.append_assoc]

/-- **Every write of a join is about its account.** Whatever the directory and the KDC
answer, and wherever the join stops, it has sent, in this order: at most one add or
modify of the account at the DN it leaves in the context (a modify carrying some of the
account's mods, each a replace), at most one password write (a change of the context's
password on a computer login, else a set of it on the context's principal), and then, only
once a password write was sent, some of the replaces of the enctypes, the host name and the
service principals with the context's values, each at the account's DN. A join that writes
anything has placed the account. -/
theorem adcliEnrollJoin_writes {r : AdcliResult} {e' : Enroll} {w' : World}
    (h : adcliEnrollJoin env flags e w = some (r, e', w')) :
    ∃ ws, w'.log = w.log ++ ws ∧ JoinWrites env e' ws ∧ (ws ≠ [] → e'.computerDn.isSome) :=
  (adcliEnrollJoin_world env flags e w h).1

/-- A join of the host `host01.corp.example.com` against `sampleEnv` creates the account and
then writes its password and attributes. -/
theorem adcliEnrollJoin_writes_host01 :
    ∃ r e' w', adcliEnrollJoin sampleEnv {} (adcliEnrollSetComputerPassword
        (adcliEnrollSetHostFqdn adcliEnrollNew (some "host01.corp.example.com")) (some "secret"))
        ⟨[], [], []⟩ = some (r, e', w') ∧
      ∃ ws, w'.log = [] ++ ws ∧ JoinWrites sampleEnv e' ws ∧ (ws ≠ [] → e'.computerDn.isSome) :=
  ⟨_, _, _, rfl, adcliEnrollJoin_writes sampleEnv {} (adcliEnrollSetComputerPassword
    (adcliEnrollSetHostFqdn adcliEnrollNew (some "host01.corp.example.com")) (some "secret"))
    ⟨[], [], []⟩ rfl⟩

/-- **A join writes into the keytab only its principals' keys at its kvno.** Whatever the
directory, the KDC and the keytab library answer, and wherever the join stops, every entry
of the keytab it leaves was there before, or belongs to one of the keytab principals of the
context it returns and carries that context's kvno, the one read back from the account. -/
theorem adcliEnrollJoin_keytab_entries {r : AdcliResult} {e' : Enroll} {w' : World}
    (h : adcliEnrollJoin env flags e w = some (r, e', w')) :
    ∀ y ∈ w'.keytab, y ∈ w.keytab ∨
      y.principal ∈ nullTerminated (e'.keytabPrincipals.getD []) ∧ y.vno = e'.kvno := by
  rcases (adcliEnrollJoin_world env flags e w h).2 with hk | ⟨⟨log, hk⟩, -⟩
  · exact fun y hy => .inl (hk ▸ hy)
  · exact fun y hy => (updateKeytabForPrincipals_mem env log e' hk y hy).imp_right fun hk => ⟨hk.1, hk.2.1⟩

/-- The join of `host01.corp.example.com` against `sampleEnv`, on a keytab that holds an
old key of another principal. -/
theorem adcliEnrollJoin_keytab_entries_host01 :
    ∃ r e' w', adcliEnrollJoin sampleEnv {} (adcliEnrollSetComputerPassword
        (adcliEnrollSetHostFqdn adcliEnrollNew (some "host01.corp.example.com")) (some "secret"))
        ⟨[], [⟨⟨["other$"], "CORP.EXAMPLE.COM"⟩, 1, 18, [7]⟩], []⟩ = some (r, e', w') ∧
      ∀ y ∈ w'.keytab, y ∈ [⟨⟨["other$"], "CORP.EXAMPLE.COM"⟩, 1, 18, [7]⟩] ∨
        y.principal ∈ nullTerminated (e'.keytabPrincipals.getD []) ∧ y.vno = e'.kvno :=
  ⟨_, _, _, rfl, adcliEnrollJoin_keytab_entries sampleEnv {} (adcliEnrollSetComputerPassword
    (adcliEnrollSetHostFqdn adcliEnrollNew (some "host01.corp.example.com")) (some "secret"))
    ⟨[], [⟨⟨["other$"], "CORP.EXAMPLE.COM"⟩, 1, 18, [7]⟩], []⟩ rfl⟩

/-- **The keys a join writes are those of the password it sent.** Whatever the directory,
the KDC and the keytab library answer, every entry of the keytab a join leaves was there
before, or has a key derived, for its enctype, from the password of the context the join
returns; and the join has sent that context's password write to the directory (a change of
that password on a computer login, else a set of it on the principal). -/
theorem adcliEnrollJoin_keytab_keys {r : AdcliResult} {e' : Enroll} {w' : World}
    (h : adcliEnrollJoin env flags e w = some (r, e', w')) :
    ∀ y ∈ w'.keytab, y ∈ w.keytab ∨ ∃ pw salt wr, e'.computerPassword = some pw ∧
      env.stringToKey y.enctype pw salt = some y.key ∧ passwordWrite env e' = some wr ∧ wr ∈ w'.log := by
  rcases (adcliEnrollJoin_world env flags e w h).2 with hk | ⟨⟨log, hk⟩, wr, hwr, hmem⟩
  · exact fun y hy => .inl (hk ▸ hy)
  · exact fun y hy => (updateKeytabForPrincipals_mem env log e' hk y hy).imp_right
      fun ⟨_, _, pw, salt, hpw, hkey⟩ => ⟨pw, salt, wr, hpw, hkey, hwr, hmem⟩

/-- The join of `host01.corp.example.com` against `sampleEnv`, on a keytab that holds an
old key of another principal. -/
theorem adcliEnrollJoin_keytab_keys_host01 :
    ∃ r e' w', adcliEnrollJoin sampleEnv {} (adcliEnrollSetComputerPassword
        (adcliEnrollSetHostFqdn adcliEnrollNew (some "host01.corp.example.com")) (some "secret"))
        ⟨[], [⟨⟨["other$"], "CORP.EXAMPLE.COM"⟩, 1, 18, [7]⟩], []⟩ = some (r, e', w') ∧
      ∀ y ∈ w'.keytab, y ∈ [⟨⟨["other$"], "CORP.EXAMPLE.COM"⟩, 1, 18, [7]⟩] ∨
        ∃ pw salt wr, e'.computerPassword = some pw ∧ sampleEnv.stringToKey y.enctype pw salt = some y.key ∧
          passwordWrite sampleEnv e' = some wr ∧ wr ∈ w'.log :=
  ⟨_, _, _, rfl, adcliEnrollJoin_keytab_keys sampleEnv {} (adcliEnrollSetComputerPassword
    (adcliEnrollSetHostFqdn adcliEnrollNew (some "host01.corp.example.com")) (some "secret"))
    ⟨[], [⟨⟨["other$"], "CORP.EXAMPLE.COM"⟩, 1, 18, [7]⟩], []⟩ rfl⟩

/-- The stages of a join that succeeds: prepare, the placement, the account's creation or
update, the password change and the read-back all succeeded, and the join returns the
context and the writes of the attribute updates after them. -/
theorem adcliEnrollJoin_success {e' : Enroll} {w' : World}
    (h : adcliEnrollJoin env flags e w = some (.success, e', w')) :
    ∃ e1 w1, adcliEnrollPrepare env flags (enrollClearState e) w = some (.success, e1, w1) ∧
      ∃ e2, placeComputerAccount env w1.log e1 = some (.success, e2) ∧
      ∃ log3, createOrUpdateComputerAccount env flags.allowOverwrite e2 w1.log = some (.success, log3) ∧
      ∃ log4, setComputerPassword env log3 e2 = some (.success, log4) ∧
      ∃ e5, retrieveComputerAccountInfo env log4 e2 = some (.success, e5) ∧
        e' = (updateAccountAttributes env e5 log4).1 ∧ w'.log = (updateAccountAttributes env e5 log4).2 := by
  cases adcliEnrollJoin_exit env flags e w h with
  | discover _ hr | prepare _ _ hr | connect _ _ _ hr | place _ _ _ _ hr | account _ _ hr | password _ _ _ hr
    | retrieve _ _ _ _ hr => exact absurd rfl hr
  | noKeytab hP h3 h4 h5 | keytab hP h3 h4 h5 => exact ⟨_, _, hP.prepare, _, hP.place, _, h3, _, h4, _, h5, rfl, rfl⟩

/-- A join whose stages all succeed, with `ADCLI_ENROLL_NO_KEYTAB`, succeeds with the context
and the writes of the attribute updates. -/
theorem adcliEnrollJoin_of_stages {e1 e2 e5 : Enroll} {w1 : World} {log3 log4 : List Write}
    (hd : env.discover w.log = .success)
    (hp : adcliEnrollPrepare env flags (enrollClearState e) w = some (.success, e1, w1))
    (hc : env.connect w1.log = .success)
    (h2 : placeComputerAccount env w1.log e1 = some (.success, e2))
    (h3 : createOrUpdateComputerAccount env flags.allowOverwrite e2 w1.log = some (.success, log3))
    (h4 : setComputerPassword env log3 e2 = some (.success, log4))
    (h5 : retrieveComputerAccountInfo env log4 e2 = some (.success, e5)) (hk : flags.noKeytab = true) :
    adcliEnrollJoin env flags e w = some (.success, (updateAccountAttributes env e5 log4).1,
      { w1 with log := (updateAccountAttributes env e5 log4).2 }) := by
  dsimp only [adcliEnrollJoin, ne_eq, Option.pure_def, Option.bind_eq_bind]
  simp only [hd, hp, hc, h2, h3, h4, h5, hk, Option.some_bind, not_true_eq_false, if_false, if_true]

/-- `adcli_enroll_prepare` leaves the kvno as it was. -/
theorem adcliEnrollPrepare_kvno {e' : Enroll} {w' : World} {r : AdcliResult}
    (h : adcliEnrollPrepare env flags e w = some (r, e', w')) : e'.kvno = e.kvno := by
  obtain ⟨r6, e6, h6, f, n, s, p, pw, k, kn, kb, sn, rfl, -⟩ := adcliEnrollPrepare_reaches h
  obtain ⟨sps, kps, rfl, -⟩ := ensureServicePrincipals_frame env _ h6
  rfl

end Run

end Adcli

/-
The public API of `adenroll.c` driven on one context: any sequence of the setters,
`adcli_enroll_get_service_names` (which fills in the default service names),
`adcli_enroll_prepare` and `adcli_enroll_join`, each with whatever outcome the connection
gives.

Two facts hold over every such sequence. First, what the caller set explicitly (the
explicit flags, the reset request, and an explicit password or explicit service
principals) is never changed by a run. `enroll_clear_state` drops what a run leaves in
the fields it knows to be derived. But a run also derives into fields the caller may set
(the FQDN, the computer name, the OU, the container, the service names, the keytab's
name, the enctypes), and those it keeps. So the next join is a join on a new context with
the caller's settings and those values carried over, and in general not one with the
caller's settings alone. Second, the `assert`s of `ensure_service_principals` do not hold
in every reachable state: a second prepare aborts, and so does a join whose keytab does
not open.
-/
import Adcli.Join

namespace Adcli

/-! ## Calls on one context -/

/-- A call of the public API on one context. The getters other than
`adcli_enroll_get_service_names` change nothing and are left out. -/
inductive Call
  | setHostFqdn (value : Option String)
  | setComputerName (value : Option String)
  | setPreferredOu (value : Option String)
  | setComputerContainer (value : Option String)
  | setComputerDn (value : Option String)
  | setComputerPassword (password : Option String)
  | resetComputerPassword
  | getServiceNames
  | setServiceNames (value : Option (List String))
  | addServiceName (value : Option String)
  | setServicePrincipals (value : Option (List String))
  | setKvno (value : UInt32)
  | setKeytabName (value : Option String)
  | setKeytabEnctypes (value : Option (List Int))
  | prepare (flags : Flags)
  | join (flags : Flags)

/-- What a setter does to the context; the calls that are not setters leave it here. -/
def applySetter (e : Enroll) : Call → Enroll
  | .setHostFqdn v => adcliEnrollSetHostFqdn e v
  | .setComputerName v => adcliEnrollSetComputerName e v
  | .setPreferredOu v => adcliEnrollSetPreferredOu e v
  | .setComputerContainer v => adcliEnrollSetComputerContainer e v
  | .setComputerDn v => adcliEnrollSetComputerDn e v
  | .setComputerPassword v => adcliEnrollSetComputerPassword e v
  | .resetComputerPassword => adcliEnrollResetComputerPassword e
  | .setServiceNames v => adcliEnrollSetServiceNames e v
  | .addServiceName v => adcliEnrollAddServiceName e v
  | .setServicePrincipals v => adcliEnrollSetServicePrincipals e v
  | .setKvno v => adcliEnrollSetKvno e v
  | .setKeytabName v => adcliEnrollSetKeytabName e v
  | .setKeytabEnctypes v => adcliEnrollSetKeytabEnctypes e v
  | .getServiceNames | .prepare _ | .join _ => e

/-- The getter `adcli_enroll_get_service_names`, for what it does to the context: it runs
`ensure_service_names` first. -/
def adcliEnrollGetServiceNames (e : Enroll) : Enroll := (ensureServiceNames .success e).2

/-- One call on the context and the world; `none` is an `assert` failing. What the call
returns is not kept: the next call sees only the context and the world. -/
def step (env : Env) (s : Enroll × World) : Call → Option (Enroll × World)
  | .getServiceNames => some (adcliEnrollGetServiceNames s.1, s.2)
  | .prepare flags => (adcliEnrollPrepare env flags s.1 s.2).map (·.2)
  | .join flags => (adcliEnrollJoin env flags s.1 s.2).map (·.2)
  | c => some (applySetter s.1 c, s.2)

/-- A sequence of calls, one after the other, stopped by an `assert`. -/
def runCalls (env : Env) : List Call → Enroll × World → Option (Enroll × World)
  | [], s => some s
  | c :: cs, s => (step env s c).bind (runCalls env cs)

/-- A new context with only the setters of a call sequence applied, in order. -/
def applySetters (cs : List Call) : Enroll := cs.foldl applySetter adcliEnrollNew

/-! ## What a run keeps -/

/-- What `enroll_clear_state` keeps of a context and no stage of a run changes: the
explicit flags, the reset request, and the password and the service principals when the
caller set them. -/
structure Explicit where
  hostFqdnExplicit : Bool
  computerNameExplicit : Bool
  computerPassword : Option String
  computerPasswordExplicit : Bool
  resetPassword : Bool
  servicePrincipals : Option (List String)
  servicePrincipalsExplicit : Bool
  keytabEnctypesExplicit : Bool

/-- The explicit part of a context. -/
def Enroll.explicit (e : Enroll) : Explicit where
  hostFqdnExplicit := e.hostFqdnExplicit
  computerNameExplicit := e.computerNameExplicit
  computerPassword := if e.computerPasswordExplicit then e.computerPassword else none
  computerPasswordExplicit := e.computerPasswordExplicit
  resetPassword := e.resetPassword
  servicePrincipals := if e.servicePrincipalsExplicit then e.servicePrincipals else none
  servicePrincipalsExplicit := e.servicePrincipalsExplicit
  keytabEnctypesExplicit := e.keytabEnctypesExplicit

/-- How a setter changes the explicit part. -/
def Explicit.set (x : Explicit) : Call → Explicit
  | .setHostFqdn _ => { x with hostFqdnExplicit := true }
  | .setComputerName v => { x with computerNameExplicit := v.isSome }
  | .setComputerPassword v =>
    { x with computerPassword := if v.isSome then v else none, computerPasswordExplicit := v.isSome }
  | .resetComputerPassword =>
    { x with computerPassword := none, computerPasswordExplicit := false, resetPassword := true }
  | .setServicePrincipals v =>
    { x with servicePrincipals := if v.isSome then v else none, servicePrincipalsExplicit := v.isSome }
  | .setKeytabEnctypes v => { x with keytabEnctypesExplicit := v.isSome }
  | _ => x

/-- What the setters make sure of: an explicit password, and explicit service principals,
are set. -/
def Enroll.WF (e : Enroll) : Prop :=
  (e.computerPasswordExplicit = true → e.computerPassword.isSome = true) ∧
    (e.servicePrincipalsExplicit = true → e.servicePrincipals.isSome = true)

/-- A change of context that keeps a well-formed context well formed and its explicit
part as it was. -/
def Enroll.Keeps (e e' : Enroll) : Prop := e.WF → e'.WF ∧ e'.explicit = e.explicit

/-- The context `base` with what a run derived in `e` carried over: the FQDN, the computer
name, the OU and whether it was validated, the container, the service names, the
keytab's name, and the enctypes. -/
def Enroll.withDerived (base e : Enroll) : Enroll :=
  { base with hostFqdn := e.hostFqdn, computerName := e.computerName, preferredOu := e.preferredOu,
              preferredOuValidated := e.preferredOuValidated, computerContainer := e.computerContainer,
              serviceNames := e.serviceNames, keytabName := e.keytabName,
              keytabNameIsKrb5 := e.keytabNameIsKrb5, keytabEnctypes := e.keytabEnctypes }

theorem Enroll.Keeps.refl (e : Enroll) : e.Keeps e := fun h => ⟨h, rfl⟩

theorem Enroll.Keeps.trans {a b c : Enroll} (h1 : a.Keeps b) (h2 : b.Keeps c) : a.Keeps c := fun h =>
  let ⟨hb, hab⟩ := h1 h
  let ⟨hc, hbc⟩ := h2 hb
  ⟨hc, hbc.trans hab⟩

theorem adcliEnrollNew_wf : adcliEnrollNew.WF := ⟨Bool.noConfusion, Bool.noConfusion⟩

theorem applySetter_explicit (e : Enroll) (c : Call) : (applySetter e c).explicit = e.explicit.set c := by
  cases c
  case addServiceName v => cases v <;> rfl
  all_goals rfl

theorem applySetter_wf {e : Enroll} (c : Call) (h : e.WF) : (applySetter e c).WF := by
  cases c
  case setComputerPassword v => exact ⟨id, h.2⟩
  case resetComputerPassword => exact ⟨Bool.noConfusion, h.2⟩
  case setServicePrincipals v => exact ⟨h.1, id⟩
  case addServiceName v => cases v <;> exact h
  all_goals exact h

/-! ## Each stage keeps the explicit part -/

section Stages

variable (env : Env) (e : Enroll)

theorem ensureServicePrincipals_keeps {res r : AdcliResult} {e' : Enroll}
    (h : ensureServicePrincipals env res e = some (r, e')) : e.Keeps e' := by
  obtain ⟨sps, kps, rfl, hsps⟩ := ensureServicePrincipals_frame env e h
  intro hwf
  by_cases hs : e.servicePrincipals.isSome
  · rw [hsps hs]; exact ⟨hwf, rfl⟩
  · have hx : e.servicePrincipalsExplicit = false := by simpa [hs] using mt hwf.2
    refine ⟨⟨hwf.1, fun h => absurd h (by simp [hx])⟩, ?_⟩
    simp only [Enroll.explicit, hx]
    rfl

end Stages

theorem adcliEnrollPrepare_keeps {env : Env} {flags : Flags} {e e' : Enroll} {w w' : World}
    {r : AdcliResult} (h : adcliEnrollPrepare env flags e w = some (r, e', w')) : e.Keeps e' := by
  obtain ⟨r6, e6, h7, f, n, s, p, pw, k, kn, kb, sn, rfl, hpw⟩ := adcliEnrollPrepare_reaches h
  refine Enroll.Keeps.trans (fun hwf => ?_) (ensureServicePrincipals_keeps env _ h7)
  by_cases hs : e.computerPassword.isSome
  · rw [hpw hs]; exact ⟨hwf, rfl⟩
  · have hx : e.computerPasswordExplicit = false := by simpa [hs] using mt hwf.1
    refine ⟨⟨fun h => absurd h (by simp [hx]), hwf.2⟩, ?_⟩
    simp only [Enroll.explicit, hx]
    rfl

theorem enrollClearState_keeps (e : Enroll) : e.Keeps (enrollClearState e) := by
  intro hwf
  refine ⟨⟨fun (h : e.computerPasswordExplicit = true) => ?_,
    fun (h : e.servicePrincipalsExplicit = true) => ?_⟩, ?_⟩
  · show (if e.computerPasswordExplicit then e.computerPassword else none).isSome = true
    rw [if_pos h]; exact hwf.1 h
  · show (if e.servicePrincipalsExplicit then e.servicePrincipals else none).isSome = true
    rw [if_pos h]; exact hwf.2 h
  · simp only [Enroll.explicit, enrollClearState]
    split_ifs <;> rfl

theorem adcliEnrollJoin_keeps {env : Env} {flags : Flags} {e e' : Enroll} {w w' : World}
    {r : AdcliResult} (h : adcliEnrollJoin env flags e w = some (r, e', w')) : e.Keeps e' := by
  have k0 := enrollClearState_keeps e
  have placed : ∀ {r1 e1 w1 r2 e2}, adcliEnrollPrepare env flags (enrollClearState e) w = some (r1, e1, w1) →
      placeComputerAccount env w1.log e1 = some (r2, e2) → e.Keeps e2 := fun hp h2 => by
    obtain ⟨_, _, h2', ⟨ou, v, cc, dn, rfl⟩, -⟩ := placeComputerAccount_eq env _ _
    rw [h2'] at h2
    cases h2
    exact (k0.trans (adcliEnrollPrepare_keeps hp)).trans fun h => ⟨h, rfl⟩
  have read : ∀ {log e2 r5 e5}, e.Keeps e2 → retrieveComputerAccountInfo env log e2 = some (r5, e5) →
      e.Keeps e5 := fun k2 h5 => by
    obtain ⟨a, k, rfl⟩ := retrieveComputerAccountInfo_frame env _ _ h5
    exact k2.trans fun h => ⟨h, rfl⟩
  have update : ∀ {log e5}, e.Keeps e5 → e.Keeps (updateAccountAttributes env e5 log).1 := fun k5 => by
    obtain ⟨ke, hke⟩ := updateAccountAttributes_fst env _ _
    rw [hke]
    exact k5.trans fun h => ⟨h, rfl⟩
  cases adcliEnrollJoin_exit env flags e w h with
  | discover => exact k0
  | prepare _ hp | connect _ hp => exact k0.trans (adcliEnrollPrepare_keeps hp)
  | place _ hp _ h2 => exact placed hp h2
  | account hP | password hP => exact placed hP.prepare hP.place
  | retrieve hP _ _ h5 => exact read (placed hP.prepare hP.place) h5
  | noKeytab hP _ _ h5 | keytab hP _ _ h5 => exact update (read (placed hP.prepare hP.place) h5)

/-! ## Every run keeps the explicit part -/

section Run

variable (env : Env)

/-- One call keeps a well-formed context well formed, and changes its explicit part as the
call's setter, if it is one, changes it. -/
theorem step_keeps {s s' : Enroll × World} {c : Call} (h : step env s c = some s') (hwf : s.1.WF) :
    s'.1.WF ∧ s'.1.explicit = s.1.explicit.set c := by
  cases c
  case getServiceNames =>
    cases h
    obtain ⟨n, hn⟩ := ensureServiceNames_frame s.1 .success
    exact ⟨by rw [adcliEnrollGetServiceNames, hn]; exact hwf, by rw [adcliEnrollGetServiceNames, hn]; rfl⟩
  case prepare flags =>
    obtain ⟨⟨r, e', w'⟩, hp, rfl⟩ := Option.map_eq_some'.mp h
    exact adcliEnrollPrepare_keeps hp hwf
  case join flags =>
    obtain ⟨⟨r, e', w'⟩, hj, rfl⟩ := Option.map_eq_some'.mp h
    exact adcliEnrollJoin_keeps hj hwf
  all_goals
    cases h
    exact ⟨applySetter_wf _ hwf, applySetter_explicit _ _⟩

/-- **Every run keeps what the caller set.** From a well-formed context, every sequence of
calls that does not abort ends in a well-formed context whose explicit part is what the
sequence's setters alone make of the first one's. -/
theorem runCalls_keeps : ∀ (cs : List Call) {s s' : Enroll × World}, runCalls env cs s = some s' →
    s.1.WF → s'.1.WF ∧ s'.1.explicit = cs.foldl Explicit.set s.1.explicit
  | [], s, s', h, hwf => by cases h; exact ⟨hwf, rfl⟩
  | c :: cs, s, s', h, hwf => by
    obtain ⟨s1, h1, h⟩ := Option.bind_eq_some.mp h
    obtain ⟨hwf1, hx1⟩ := step_keeps env h1 hwf
    rw [List.foldl_cons, ← hx1]
    exact runCalls_keeps cs h hwf1

end Run

theorem applySetters_explicit (cs : List Call) :
    (applySetters cs).explicit = cs.foldl Explicit.set adcliEnrollNew.explicit := by
  suffices ∀ e : Enroll, (cs.foldl applySetter e).explicit = cs.foldl Explicit.set e.explicit from this _
  induction cs with
  | nil => intro e; rfl
  | cons c cs ih => intro e; rw [List.foldl_cons, List.foldl_cons, ih, applySetter_explicit]

theorem enrollClearState_enrollClearState (e : Enroll) :
    enrollClearState (enrollClearState e) = enrollClearState e := by
  unfold enrollClearState
  split_ifs <;> rfl

/-- The join reads the context only through `enroll_clear_state`. -/
theorem adcliEnrollJoin_enrollClearState (env : Env) (flags : Flags) (e : Enroll) (w : World) :
    adcliEnrollJoin env flags (enrollClearState e) w = adcliEnrollJoin env flags e w := by
  rw [adcliEnrollJoin, adcliEnrollJoin, enrollClearState_enrollClearState]

/-- Two contexts with the same explicit part clear to the same context once the derived
fields of one are carried over to the other. -/
theorem enrollClearState_withDerived {e b : Enroll} (h : e.explicit = b.explicit) :
    enrollClearState (b.withDerived e) = enrollClearState e := by
  cases e; cases b
  obtain ⟨h1, h2, h3, h4, h5, h6, h7, h8⟩ := Explicit.mk.inj h
  subst h1 h2 h4 h5 h7 h8
  simp only [enrollClearState, Enroll.withDerived, h3, h6]


/-! ## The next join -/

/-- **What the next join computes.** Every sequence of calls on a new context that does
not abort leaves a well-formed context whose explicit part is that of a new context with
the sequence's setters alone applied. A join on it, with any flags and on any world, is
the join on that new context with the fields a run derives carried over: the FQDN, the
computer name, the OU and its validation, the container, the service names, the keytab's
name and the enctypes. -/
theorem runCalls_join_withDerived {env : Env} {cs : List Call} {w0 w : World} {e : Enroll}
    (h : runCalls env cs (adcliEnrollNew, w0) = some (e, w)) :
    e.WF ∧ e.explicit = (applySetters cs).explicit ∧
      ∀ (flags : Flags) (w' : World), adcliEnrollJoin env flags e w' =
        adcliEnrollJoin env flags ((applySetters cs).withDerived e) w' := by
  obtain ⟨hwf, hx⟩ := runCalls_keeps env cs h adcliEnrollNew_wf
  have hx' : e.explicit = (applySetters cs).explicit := hx.trans (applySetters_explicit cs).symm
  refine ⟨hwf, hx', fun flags w' => ?_⟩
  calc adcliEnrollJoin env flags e w'
      = adcliEnrollJoin env flags (enrollClearState e) w' :=
        (adcliEnrollJoin_enrollClearState env flags e w').symm
    _ = adcliEnrollJoin env flags (enrollClearState ((applySetters cs).withDerived e)) w' := by
        rw [enrollClearState_withDerived hx']
    _ = adcliEnrollJoin env flags ((applySetters cs).withDerived e) w' :=
        adcliEnrollJoin_enrollClearState env flags _ w'

/-- After the rename, the next join keeps the computer name `A` the first join derived, and
fails on the existing account `CN=A`; a join on a new context with the same settings, on
the same directory, derives `B` and succeeds. -/
theorem runCalls_join_keeps_computer_name :
    (runCalls sampleEnv [.setHostFqdn (some "a.corp.example.com"), .setComputerPassword (some "secret"),
        .join {}, .setHostFqdn (some "b.corp.example.com")] (adcliEnrollNew, ⟨[], [], []⟩)).bind
      (fun s => (adcliEnrollJoin sampleEnv {} s.1 s.2).map fun r => (r.1, r.2.1.computerName)) =
      some (.errConfig, some "A") ∧
    (runCalls sampleEnv [.setHostFqdn (some "a.corp.example.com"), .setComputerPassword (some "secret"),
        .join {}, .setHostFqdn (some "b.corp.example.com")] (adcliEnrollNew, ⟨[], [], []⟩)).bind
      (fun s => (adcliEnrollJoin sampleEnv {} (applySetters [.setHostFqdn (some "a.corp.example.com"),
        .setComputerPassword (some "secret"), .join {}, .setHostFqdn (some "b.corp.example.com")]) s.2).map
          fun r => (r.1, r.2.1.computerName)) =
      some (.success, some "B") :=
  ⟨rfl, rfl⟩

/-- A computer name a join derived passes for one the caller set. After a join as
`a.corp.example.com` and the FQDN set to `host01`, which has no dot, the next join clears the
context and runs `ensure_computer_name` on the FQDN `host01` and a computer name the caller
never set; it succeeds and keeps `A`, and the join goes on as `A` (and stops on the account
`CN=A` the first join created). On a new context with the FQDN `host01`,
`ensure_computer_name` fails with `ADCLI_ERR_CONFIG`. -/
theorem runCalls_ensureComputerName_host01 :
    (runCalls sampleEnv [.setHostFqdn (some "a.corp.example.com"), .setComputerPassword (some "secret"),
        .join {}, .setHostFqdn (some "host01")] (adcliEnrollNew, ⟨[], [], []⟩)).map
      (fun s => ((enrollClearState s.1).computerNameExplicit, (enrollClearState s.1).hostFqdn,
        (ensureComputerName .success (enrollClearState s.1)).1,
        (ensureComputerName .success (enrollClearState s.1)).2.computerName)) =
      some (false, some "host01", .success, some "A") ∧
    (runCalls sampleEnv [.setHostFqdn (some "a.corp.example.com"), .setComputerPassword (some "secret"),
        .join {}, .setHostFqdn (some "host01")] (adcliEnrollNew, ⟨[], [], []⟩)).bind
      (fun s => (adcliEnrollJoin sampleEnv {} s.1 s.2).map fun r => (r.1, r.2.1.computerName)) =
      some (.errConfig, some "A") ∧
    (ensureComputerName .success (adcliEnrollSetHostFqdn adcliEnrollNew (some "host01"))).1 = .errConfig :=
  ⟨rfl, rfl, rfl⟩

/-! ## The `assert`s of `ensure_service_principals` -/

/-- **Prepare on a context that holds keytab principals aborts**: it fails the `assert
(enroll->keytab_principals == NULL)` of `ensure_service_principals`, if nothing aborts
before. -/
theorem adcliEnrollPrepare_keytabPrincipals {env : Env} {flags : Flags} {e : Enroll} {w : World}
    (hk : e.keytabPrincipals.isSome) : adcliEnrollPrepare env flags e w = none := by
  rcases hp : adcliEnrollPrepare env flags e w with _ | ⟨r, e', w'⟩
  · rfl
  obtain ⟨r6, e6, h7, f, n, s, p, pw, k, kn, kb, sn, rfl, -⟩ := adcliEnrollPrepare_reaches hp
  rw [ensureServicePrincipals, if_pos (Or.inr hk)] at h7
  cases h7

/-- **A second prepare aborts**: after a successful `adcli_enroll_prepare`, another one on
the same context, with any flags and on any world, fails an `assert`. -/
theorem adcliEnrollPrepare_twice {env : Env} {flags flags' : Flags} {e e' : Enroll} {w w' w'' : World}
    (h : adcliEnrollPrepare env flags e w = some (.success, e', w')) :
    adcliEnrollPrepare env flags' e' w'' = none :=
  adcliEnrollPrepare_keytabPrincipals (adcliEnrollPrepare_success_fields h).2.2.1

/-- Prepare twice on the host `host01.corp.example.com`. -/
theorem adcliEnrollPrepare_twice_host01 :
    ∃ e' w', adcliEnrollPrepare sampleEnv {} (adcliEnrollSetComputerPassword
        (adcliEnrollSetHostFqdn adcliEnrollNew (some "host01.corp.example.com")) (some "secret"))
        ⟨[], [], []⟩ = some (.success, e', w') ∧
      adcliEnrollPrepare sampleEnv {} e' w' = none :=
  ⟨_, _, rfl, @adcliEnrollPrepare_twice sampleEnv {} {} (adcliEnrollSetComputerPassword
    (adcliEnrollSetHostFqdn adcliEnrollNew (some "host01.corp.example.com")) (some "secret"))
    _ ⟨[], [], []⟩ _ _ rfl⟩

/-- Two call sequences that reach an `assert` of `ensure_service_principals`: prepare twice
(`keytab_principals` already set), and a join whose default keytab does not open, so that
`ensure_service_names` is skipped and `service_names` is still unset. -/
theorem runCalls_service_principals_assert :
    runCalls sampleEnv [.setHostFqdn (some "host01.corp.example.com"),
      .setComputerPassword (some "secret"), .prepare {}, .prepare {}] (adcliEnrollNew, ⟨[], [], []⟩) = none ∧
    runCalls { sampleEnv with ktDefault := fun _ => none } [.setComputerPassword (some "secret"), .join {}]
      (adcliEnrollNew, ⟨[], [], []⟩) = none :=
  ⟨rfl, rfl⟩

/-! ## Where a join places the account

`enroll_clear_state` frees the DN but keeps the OU, its validation and the container, and
`adcli_enroll_set_preferred_ou` clears only the validation. So the container a join finds
stays in the context, and `lookup_computer_container` returns at once on the next join. -/

/-- `adcli_enroll_prepare` keeps the DN and the container. -/
theorem adcliEnrollPrepare_placement {env : Env} {flags : Flags} {e e' : Enroll} {w w' : World}
    {r : AdcliResult} (h : adcliEnrollPrepare env flags e w = some (r, e', w')) :
    e'.computerDn = e.computerDn ∧ e'.computerContainer = e.computerContainer := by
  obtain ⟨r6, e6, h6, f, n, s, p, pw, k, kn, kb, sn, rfl, -⟩ := adcliEnrollPrepare_reaches h
  obtain ⟨sps, kps, rfl, -⟩ := ensureServicePrincipals_frame env _ h6
  exact ⟨rfl, rfl⟩

/-- With no DN set, the placement keeps the computer name and a container already set, and
a DN it sets is `CN=<computer name>,<the container it leaves>`. -/
theorem placeComputerAccount_dn {env : Env} {log : List Write} {e e' : Enroll} {r : AdcliResult}
    (hdn : e.computerDn = none) (h : placeComputerAccount env log e = some (r, e')) :
    e'.computerName = e.computerName ∧ (e.computerContainer.isSome → e'.computerContainer = e.computerContainer) ∧
      (e'.computerDn.isSome → ∃ cc, e'.computerContainer = some cc ∧
        e'.computerDn = some ("CN=" ++ cstr e.computerName ++ "," ++ cc)) := by
  unfold placeComputerAccount at h
  rw [hdn, Option.isSome_none, if_neg Bool.false_ne_true] at h
  simp only [ne_eq, Option.pure_def, Option.bind_eq_bind, Option.some_bind] at h
  obtain ⟨⟨r1, e1⟩, h1, h⟩ := Option.bind_eq_some.mp h
  obtain ⟨ou, v, rfl⟩ : ∃ ou v, e1 = { e with preferredOu := ou, preferredOuValidated := v } := by
    by_cases hou : e.preferredOu.isSome
    · obtain ⟨r, v, hv⟩ := validatePreferredOu_eq env log e hou
      rw [if_pos hou, hv, Option.some.injEq, Prod.mk.injEq] at h1
      exact ⟨_, _, h1.2.symm⟩
    · obtain ⟨r, ou, hl, -⟩ := lookupPreferredOu_eq env log e (by simpa using hou)
      rw [if_neg hou, hl, Option.some.injEq, Prod.mk.injEq] at h1
      exact ⟨_, _, h1.2.symm⟩
  rcases ite_not_success_eq_some h with ⟨-, ⟨⟩⟩ | ⟨-, h⟩
  · exact ⟨rfl, fun _ => rfl, fun hd => absurd hd (by simp [hdn])⟩
  obtain ⟨⟨r2, e2⟩, h2, h⟩ := Option.bind_eq_some.mp h
  obtain ⟨cc, rfl, hcc⟩ := lookupComputerContainer_frame env log _ h2
  rcases ite_not_success_eq_some h with ⟨-, ⟨⟩⟩ | ⟨-, h⟩
  · exact ⟨rfl, hcc, fun hd => absurd hd (by simp [hdn])⟩
  unfold calcComputerAccount at h
  split at h
  · cases h
  · rename_i c hc
    cases h
    exact ⟨rfl, hcc, fun _ => ⟨c, hc, rfl⟩⟩

/-- What a join leaves of the context: the cleared context, what prepare left, or what the
placement left with at most the account's attributes, the kvno and the enctypes read back. -/
theorem adcliEnrollJoin_context {env : Env} {flags : Flags} {e e' : Enroll} {w w' : World} {r : AdcliResult}
    (h : adcliEnrollJoin env flags e w = some (r, e', w')) :
    e' = enrollClearState e ∨ ∃ r1 e1 w1, adcliEnrollPrepare env flags (enrollClearState e) w = some (r1, e1, w1) ∧
      (e' = e1 ∨ ∃ r2 e2, placeComputerAccount env w1.log e1 = some (r2, e2) ∧
        ∃ a k ke, e' = { e2 with computerAttributes := a, kvno := k, keytabEnctypes := ke }) := by
  cases adcliEnrollJoin_exit env flags e w h with
  | discover => exact .inl rfl
  | prepare _ hp | connect _ hp => exact .inr ⟨_, _, _, hp, .inl rfl⟩
  | place _ hp _ h2 => exact .inr ⟨_, _, _, hp, .inr ⟨_, _, h2, _, _, _, rfl⟩⟩
  | account hP | password hP => exact .inr ⟨_, _, _, hP.prepare, .inr ⟨_, _, hP.place, _, _, _, rfl⟩⟩
  | retrieve hP _ _ h5 =>
    obtain ⟨a, k, rfl⟩ := retrieveComputerAccountInfo_frame env _ _ h5
    exact .inr ⟨_, _, _, hP.prepare, .inr ⟨_, _, hP.place, a, k, _, rfl⟩⟩
  | @noKeytab _ e2 _ _ _ log4 hP _ _ h5 | @keytab _ _ e2 _ _ _ log4 _ hP _ _ h5 =>
    obtain ⟨a, k, rfl⟩ := retrieveComputerAccountInfo_frame env _ _ h5
    obtain ⟨ke, hke⟩ := updateAccountAttributes_fst env log4 { e2 with computerAttributes := a, kvno := k }
    exact .inr ⟨_, _, _, hP.prepare, .inr ⟨_, _, hP.place, a, k, ke, hke⟩⟩

/-- Every DN a join leaves is `CN=<computer name>,<container>` of the name and the container
it leaves, and a container set before the join is the one it leaves. -/
theorem adcliEnrollJoin_dn {env : Env} {flags : Flags} {e e' : Enroll} {w w' : World} {r : AdcliResult}
    (h : adcliEnrollJoin env flags e w = some (r, e', w')) (hdn : e'.computerDn.isSome) :
    ∃ cc, e'.computerContainer = some cc ∧ e'.computerDn = some ("CN=" ++ cstr e'.computerName ++ "," ++ cc) ∧
      (e.computerContainer.isSome → e'.computerContainer = e.computerContainer) := by
  rcases adcliEnrollJoin_context h with rfl | ⟨r1, e1, w1, hp, rfl | ⟨r2, e2, h2, a, k, ke, rfl⟩⟩
  · exact absurd hdn (by simp [enrollClearState])
  · rw [(adcliEnrollPrepare_placement hp).1] at hdn
    exact absurd hdn (by simp [enrollClearState])
  · obtain ⟨hdn1, hcc1⟩ := adcliEnrollPrepare_placement hp
    obtain ⟨hname, hkeep, hset⟩ := placeComputerAccount_dn hdn1 h2
    obtain ⟨cc, hcc, hd⟩ := hset hdn
    exact ⟨cc, hcc, hd.trans (by rw [hname]), fun h' => (hkeep (hcc1 ▸ h')).trans hcc1⟩

/-- **A placed account stays in its container.** Once a join has placed the account, a later
join on the context, after `adcli_enroll_set_preferred_ou` with any OU and in any
environment, places it in the same container: the container the first join found is kept,
and `lookup_computer_container` returns at once when one is set, so the new OU is at most
validated, never used. -/
theorem adcliEnrollJoin_setPreferredOu_container {env env' : Env} {flags flags' : Flags} {e e1 e2 : Enroll}
    {w w1 w2 w3 : World} {r r' : AdcliResult} (h1 : adcliEnrollJoin env flags e w = some (r, e1, w1))
    (hdn1 : e1.computerDn.isSome) (ou : Option String)
    (h2 : adcliEnrollJoin env' flags' (adcliEnrollSetPreferredOu e1 ou) w2 = some (r', e2, w3))
    (hdn2 : e2.computerDn.isSome) :
    ∃ cc, e1.computerDn = some ("CN=" ++ cstr e1.computerName ++ "," ++ cc) ∧
      e2.computerDn = some ("CN=" ++ cstr e2.computerName ++ "," ++ cc) := by
  obtain ⟨cc, hcc1, hd1, -⟩ := adcliEnrollJoin_dn h1 hdn1
  obtain ⟨cc', hcc2, hd2, hkeep⟩ := adcliEnrollJoin_dn h2 hdn2
  have hsame : some cc' = some cc := hcc2.symm.trans ((hkeep (Option.isSome_iff_exists.mpr ⟨cc, hcc1⟩)).trans hcc1)
  exact ⟨cc, hd1, Option.some.inj hsame ▸ hd2⟩

/-- `host01.corp.example.com` joins `sampleEnv`, then, with the OU set to `OU=Sales`, joins
again: the account stays in `CN=Computers`. -/
theorem adcliEnrollJoin_setPreferredOu_container_sales :
    ∃ r e1 w1, adcliEnrollJoin sampleEnv {} (adcliEnrollSetComputerPassword
        (adcliEnrollSetHostFqdn adcliEnrollNew (some "host01.corp.example.com")) (some "secret"))
        ⟨[], [], []⟩ = some (r, e1, w1) ∧ e1.computerDn.isSome ∧
      ∃ r' e2 w3, adcliEnrollJoin sampleEnv { allowOverwrite := true }
          (adcliEnrollSetPreferredOu e1 (some "OU=Sales,DC=corp,DC=example,DC=com")) w1 = some (r', e2, w3) ∧
        e2.computerDn.isSome ∧
        ∃ cc, e1.computerDn = some ("CN=" ++ cstr e1.computerName ++ "," ++ cc) ∧
          e2.computerDn = some ("CN=" ++ cstr e2.computerName ++ "," ++ cc) := by
  have run : ∀ r e1 w1, adcliEnrollJoin sampleEnv {} (adcliEnrollSetComputerPassword
        (adcliEnrollSetHostFqdn adcliEnrollNew (some "host01.corp.example.com")) (some "secret"))
        ⟨[], [], []⟩ = some (r, e1, w1) → e1.computerDn.isSome →
      ∀ r' e2 w3, adcliEnrollJoin sampleEnv { allowOverwrite := true }
          (adcliEnrollSetPreferredOu e1 (some "OU=Sales,DC=corp,DC=example,DC=com")) w1 = some (r', e2, w3) →
        e2.computerDn.isSome → ∃ cc, e1.computerDn = some ("CN=" ++ cstr e1.computerName ++ "," ++ cc) ∧
          e2.computerDn = some ("CN=" ++ cstr e2.computerName ++ "," ++ cc) :=
    fun _ _ _ h1 hdn1 _ _ _ h2 hdn2 => adcliEnrollJoin_setPreferredOu_container h1 hdn1 _ h2 hdn2
  exact ⟨_, _, _, rfl, rfl, _, _, _, rfl, rfl, run _ _ _ rfl rfl _ _ _ rfl rfl⟩

end Adcli

/-
How `update_keytab_for_principals` rewrites the keytab. For each principal of the context
in turn, `add_principal_to_keytab` clears the principal's entries except those one
version behind the new kvno, then writes one entry per enctype at the new kvno, keyed
with the salt that the first principal's trial AS-REQs discovered. The keytab library's
helpers of adkrb5.c are modelled from the spec.

Over any keytab, any principal list (repeats included: a repeated principal's second pass
removes what its first wrote, then writes it again) and any kvno, including the wrap at
`0`, a successful run leaves the other principals' entries, the kept previous version,
and exactly one entry per enctype for each principal; a failed one leaves the principals
it had not reached untouched.
-/
import Adcli.Context

namespace Adcli

/-! ## The keytab library -/

/-- One step of the scan of `_adcli_krb5_keytab_clear`, over the entries `xs` still to be
read, on the keytab `kt`. -/
def keytabClearScan (env : Env) (sel : KeytabEntry → Bool) :
    List KeytabEntry → List KeytabEntry → Bool × List KeytabEntry
  | [], kt => (true, kt)
  | x :: xs, kt =>
    if sel x then
      if env.ktRemoveFails kt x then (false, kt)
      else keytabClearScan env sel xs (kt.erase x)
    else keytabClearScan env sel xs kt

/-- Modelled from the spec: `_adcli_krb5_keytab_clear` (adkrb5.c) scans the keytab and
removes each entry the match function selects ("Scan the keytab and remove entries whose
principal matches"); a removal that fails ends it with an error. -/
def keytabClear (env : Env) (sel : KeytabEntry → Bool) (kt : List KeytabEntry) : Bool × List KeytabEntry :=
  keytabClearScan env sel kt kt

/-- The entries of a principal at a kvno, one per enctype in order, keyed from the password
and the salt, when every key derives. -/
def keytabEntriesFor (env : Env) (principal : Principal) (kvno : UInt32) (password : String)
    (salt : Option String) (enctypes : List Int) : Option (List KeytabEntry) :=
  enctypes.mapM fun enctype => (env.stringToKey enctype password salt).map fun key => ⟨principal, kvno, enctype, key⟩

/-- Modelled from the spec: `_adcli_krb5_keytab_add_entries` (adkrb5.c) derives the key of
each enctype from the password and the salt and adds the entry ("for each enabled enctype,
derive the key and write a keytab entry"); a key that does not derive or an entry that is
not added ends it with an error. -/
def keytabAddEntries (env : Env) (principal : Principal) (kvno : UInt32) (password : String)
    (salt : Option String) : List Int → List KeytabEntry → Bool × List KeytabEntry
  | [], kt => (true, kt)
  | enctype :: enctypes, kt =>
    match env.stringToKey enctype password salt with
    | none => (false, kt)
    | some key =>
      if env.ktAddFails kt ⟨principal, kvno, enctype, key⟩ then (false, kt)
      else keytabAddEntries env principal kvno password salt enctypes (kt ++ [⟨principal, kvno, enctype, key⟩])

/-- Modelled from the spec: `_adcli_krb5_keytab_discover_salt` (adkrb5.c) tries each
candidate salt in order and takes the first whose keys, one per enctype, the realm
accepts in a trial AS-REQ at the kvno ("The first salt whose derived key is accepted for
any enctype is selected"); `none` when none is. -/
def keytabDiscoverSalt (env : Env) (log : List Write) (principal : Principal) (kvno : UInt32)
    (password : String) (enctypes : List Int) (salts : List (Option String)) : Option Nat :=
  salts.findIdx? fun salt =>
    env.asReq log principal kvno (enctypes.filterMap fun et => (env.stringToKey et password salt).map (et, ·))

/-! ## The keytab update -/

/-- The function `match_principal_and_kvno`: an entry of the principal, unless its version
is the one before the kvno (`entry->vno + 1 == closure->kvno`, in `krb5_kvno`). -/
def matchPrincipalAndKvno (principal : Principal) (kvno : UInt32) (entry : KeytabEntry) : Bool :=
  if entry.vno + 1 == kvno then false else entry.principal == principal

/-- The function `build_principal_salts`: the standard salt, the Windows 2003 computer
account salt, and the null salt. -/
def buildPrincipalSalts (env : Env) (e : Enroll) (principal : Principal) : List (Option String) :=
  [some (env.principal2salt principal), some (env.w2k3Salt principal e.computerName), none]

/-- The salt at index `s` of `build_principal_salts`. -/
def saltFor (env : Env) (e : Enroll) (s : Nat) (principal : Principal) : Option String :=
  (buildPrincipalSalts env e principal).getD s none

/-- The function `add_principal_to_keytab`, with `which_salt` (`none` for `-1`): clear the
principal's old entries, discover the salt when none is known, and add the entries at
the kvno. `none` is `strlen` of a `NULL` password. -/
def addPrincipalToKeytab (env : Env) (log : List Write) (e : Enroll) (principal : Principal)
    (whichSalt : Option Nat) (kt : List KeytabEntry) : Option (AdcliResult × Option Nat × List KeytabEntry) :=
  let (cleared, kt) := keytabClear env (matchPrincipalAndKvno principal e.kvno) kt
  if !cleared then some (.errFail, whichSalt, kt)
  else
    match e.computerPassword with
    | none => none
    | some password =>
      let enctypes := adcliEnrollGetKeytabEnctypes e
      let which := match whichSalt with
        | some s => some s
        | none => keytabDiscoverSalt env log principal e.kvno password enctypes (buildPrincipalSalts env e principal)
      match which with
      | none => some (.errDirectory, whichSalt, kt)
      | some s =>
        let (added, kt) := keytabAddEntries env principal e.kvno password (saltFor env e s principal) enctypes kt
        some (if added then .success else .errFail, some s, kt)

/-- The loop of `update_keytab_for_principals` over the principals before the `NULL`. -/
def updateKeytabLoop (env : Env) (log : List Write) (e : Enroll) :
    List Principal → Option Nat → List KeytabEntry → Option (AdcliResult × List KeytabEntry)
  | [], _, kt => some (.success, kt)
  | p :: ps, whichSalt, kt =>
    match addPrincipalToKeytab env log e p whichSalt kt with
    | none => none
    | some (res, whichSalt, kt) =>
      if res ≠ .success then some (res, kt) else updateKeytabLoop env log e ps whichSalt kt

/-- The function `update_keytab_for_principals`, on the keytab's entries. `none` is
`assert (enroll->keytab_principals != NULL)` failing, or an abort in the loop. -/
def updateKeytabForPrincipals (env : Env) (log : List Write) (e : Enroll) (kt : List KeytabEntry) :
    Option (AdcliResult × List KeytabEntry) :=
  match e.keytabPrincipals with
  | none => none
  | some principals => updateKeytabLoop env log e (nullTerminated principals) none kt

/-! ## The keytab library's effect -/

section Library

variable (env : Env)

/-- The scan has removed the selected entries of what it has read, and left the rest. -/
theorem keytabClearScan_eq (sel : KeytabEntry → Bool) :
    ∀ (xs pre : List KeytabEntry) {ok : Bool} {kt' : List KeytabEntry},
      keytabClearScan env sel xs (pre.filter (fun y => !sel y) ++ xs) = (ok, kt') →
      ∃ pre' xs', pre' ++ xs' = pre ++ xs ∧ kt' = pre'.filter (fun y => !sel y) ++ xs' ∧
        (ok = true → xs' = [])
  | [], pre, _, _, h => by
    cases h
    exact ⟨pre, [], rfl, rfl, fun _ => rfl⟩
  | x :: xs, pre, ok, kt', h => by
    simp only [keytabClearScan] at h
    split_ifs at h with hx hfail
    · cases h
      exact ⟨pre, x :: xs, rfl, rfl, Bool.noConfusion⟩
    · have hnot : x ∉ pre.filter (fun y => !sel y) := by simp [hx]
      have hpre : pre.filter (fun y => !sel y) ++ xs = (pre ++ [x]).filter (fun y => !sel y) ++ xs := by
        simp [List.filter_append, hx]
      rw [List.erase_append_right _ hnot, List.erase_cons_head, hpre] at h
      obtain ⟨pre', xs', hsplit, rfl, hok⟩ := keytabClearScan_eq sel xs (pre ++ [x]) h
      exact ⟨pre', xs', by simp [hsplit], rfl, hok⟩
    · have hpre : pre.filter (fun y => !sel y) ++ x :: xs = (pre ++ [x]).filter (fun y => !sel y) ++ xs := by
        simp [List.filter_append, hx]
      rw [hpre] at h
      obtain ⟨pre', xs', hsplit, rfl, hok⟩ := keytabClearScan_eq sel xs (pre ++ [x]) h
      exact ⟨pre', xs', by simp [hsplit], rfl, hok⟩

/-- What `_adcli_krb5_keytab_clear` leaves: on success the unselected entries, in order;
in any case every entry a predicate that excludes the selected ones keeps. -/
theorem keytabClear_eq (sel : KeytabEntry → Bool) {kt kt' : List KeytabEntry} {ok : Bool}
    (h : keytabClear env sel kt = (ok, kt')) :
    (ok = true → kt' = kt.filter fun y => !sel y) ∧
    ∀ q : KeytabEntry → Bool, (∀ y, q y = true → sel y = false) → kt'.filter q = kt.filter q := by
  obtain ⟨pre', xs', hsplit, rfl, hok⟩ := keytabClearScan_eq env sel kt [] (by simpa [keytabClear] using h)
  rw [List.nil_append] at hsplit
  subst hsplit
  refine ⟨fun hk => by simp [hok hk], fun q hq => ?_⟩
  rw [List.filter_append, List.filter_append, List.filter_filter]
  congr 1
  exact List.filter_congr fun y _ => by cases hy : q y <;> simp [hq y, hy]

/-- What `_adcli_krb5_keytab_add_entries` leaves: the keytab, then entries of the
principal; on success exactly the principal's entries, one per enctype. -/
theorem keytabAddEntries_eq (principal : Principal) (kvno : UInt32) (password : String)
    (salt : Option String) :
    ∀ (enctypes : List Int) (kt : List KeytabEntry) {ok : Bool} {kt' : List KeytabEntry},
      keytabAddEntries env principal kvno password salt enctypes kt = (ok, kt') →
      ∃ added, kt' = kt ++ added ∧ (∀ y ∈ added, y.principal = principal) ∧
        (ok = true → keytabEntriesFor env principal kvno password salt enctypes = some added)
  | [], kt, _, _, h => by
    cases h
    exact ⟨[], by simp, by simp, fun _ => rfl⟩
  | et :: enctypes, kt, ok, kt', h => by
    simp only [keytabAddEntries] at h
    split at h
    · cases h
      exact ⟨[], by simp, by simp, Bool.noConfusion⟩
    rename_i key hkey
    split_ifs at h
    · cases h
      exact ⟨[], by simp, by simp, Bool.noConfusion⟩
    obtain ⟨added, rfl, hp, hok⟩ := keytabAddEntries_eq principal kvno password salt enctypes _ h
    refine ⟨⟨principal, kvno, et, key⟩ :: added, by simp, ?_, fun hk => ?_⟩
    · simpa using hp
    · rw [keytabEntriesFor] at hok ⊢
      rw [List.mapM_cons, hkey, hok hk]
      rfl

/-- The entries `keytabEntriesFor` gives: the principal's, at the kvno, one per enctype in order. -/
theorem keytabEntriesFor_shape {principal : Principal} {kvno : UInt32} {password : String}
    {salt : Option String} : ∀ {enctypes : List Int} {blk : List KeytabEntry},
      keytabEntriesFor env principal kvno password salt enctypes = some blk →
      blk.map (fun y => (y.principal, y.vno, y.enctype)) = enctypes.map fun et => (principal, kvno, et)
  | [], blk, h => by cases h; rfl
  | et :: enctypes, blk, h => by
    rw [keytabEntriesFor, List.mapM_cons] at h
    simp only [Option.bind_eq_bind, Option.bind_eq_some, Option.map_eq_some', Option.pure_def,
      Option.some.injEq] at h
    obtain ⟨_, ⟨key, -, rfl⟩, rest, hrest, rfl⟩ := h
    simp [keytabEntriesFor_shape hrest]

theorem principal_of_mem_keytabEntriesFor {principal : Principal} {kvno : UInt32} {password : String}
    {salt : Option String} {enctypes : List Int} {blk : List KeytabEntry}
    (h : keytabEntriesFor env principal kvno password salt enctypes = some blk) {y : KeytabEntry}
    (hy : y ∈ blk) : y.principal = principal ∧ y.vno = kvno := by
  have hmem := List.mem_map_of_mem (fun y => (y.principal, y.vno, y.enctype)) hy
  rw [keytabEntriesFor_shape env h] at hmem
  obtain ⟨_, -, he⟩ := List.mem_map.mp hmem
  simp only [Prod.mk.injEq] at he
  exact ⟨he.1.symm, he.2.1.symm⟩

end Library

/-! ## One principal's pass -/

section Pass

variable (env : Env) (log : List Write) (e : Enroll)

theorem matchPrincipalAndKvno_of_ne {p : Principal} {y : KeytabEntry} (h : y.principal ≠ p) :
    matchPrincipalAndKvno p e.kvno y = false := by
  simp [matchPrincipalAndKvno, h]

/-- **One principal's pass of `add_principal_to_keytab`.** It leaves every entry of the
other principals as it was; when it succeeds, it has removed the principal's entries but
the previous version's and added one entry per enctype, keyed with the salt it was given
or, given none, the one it discovered. -/
theorem addPrincipalToKeytab_eq {p : Principal} {w w' : Option Nat} {kt kt' : List KeytabEntry}
    {res : AdcliResult} (h : addPrincipalToKeytab env log e p w kt = some (res, w', kt')) :
    (∀ q : KeytabEntry → Bool, (∀ y, q y = true → y.principal ≠ p) → kt'.filter q = kt.filter q) ∧
    (res = .success → ∃ s blk, w' = some s ∧
      (w = some s ∨ w = none ∧ keytabDiscoverSalt env log p e.kvno (e.computerPassword.getD "")
        (adcliEnrollGetKeytabEnctypes e) (buildPrincipalSalts env e p) = some s) ∧
      keytabEntriesFor env p e.kvno (e.computerPassword.getD "") (saltFor env e s p)
        (adcliEnrollGetKeytabEnctypes e) = some blk ∧
      kt' = kt.filter (fun y => !matchPrincipalAndKvno p e.kvno y) ++ blk) := by
  simp only [addPrincipalToKeytab] at h
  generalize hc : keytabClear env _ kt = c at h
  obtain ⟨cleared, kt1⟩ := c
  obtain ⟨hclr, hframe⟩ := keytabClear_eq env _ hc
  have hsel : ∀ q : KeytabEntry → Bool, (∀ y, q y = true → y.principal ≠ p) →
      ∀ y, q y = true → matchPrincipalAndKvno p e.kvno y = false :=
    fun q hq y hy => matchPrincipalAndKvno_of_ne e (hq y hy)
  split_ifs at h with hcl
  · cases h
    exact ⟨fun q hq => hframe q (hsel q hq), fun h => absurd h (by decide)⟩
  have hcl : cleared = true := by simpa using hcl
  cases hpw : e.computerPassword with
  | none => simp [hpw] at h
  | some pw =>
    simp only [hpw] at h
    split at h
    · cases h
      exact ⟨fun q hq => hframe q (hsel q hq), fun h => absurd h (by decide)⟩
    rename_i s hs
    generalize ha : keytabAddEntries env p e.kvno pw _ _ kt1 = a at h
    obtain ⟨added, kt2⟩ := a
    obtain ⟨blk, rfl, hp, hok⟩ := keytabAddEntries_eq env _ _ _ _ _ _ ha
    simp only [Option.some.injEq, Prod.mk.injEq] at h
    obtain ⟨hres, rfl, rfl⟩ := h
    refine ⟨fun q hq => ?_, fun hs' => ⟨s, blk, rfl, ?_, hok ?_, by rw [hclr hcl]⟩⟩
    · have hnil : blk.filter q = [] :=
        List.filter_eq_nil_iff.mpr fun y hy hq' => hq y (by simpa using hq') (hp y hy)
      rw [List.filter_append, hframe q (hsel q hq), hnil, List.append_nil]
    · cases w with
      | some s' => exact .inl (by simpa using hs)
      | none => exact .inr ⟨rfl, hs⟩
    · cases added
      · simp only [Bool.false_eq_true, if_false] at hres
        exact absurd (hres.trans hs') (by decide)
      · rfl

end Pass

/-! ## The loop over the principals -/

theorem uint32_succ_ne (v : UInt32) : v + 1 ≠ v := by
  intro h
  have h2 := congrArg (fun x : UInt32 => x.toBitVec.toNat) h
  have hv : v.toBitVec.toNat < 2 ^ 32 := v.toBitVec.isLt
  simp only [UInt32.add_def, BitVec.toNat_add] at h2
  change (v.toBitVec.toNat + 1) % 2 ^ 32 = v.toBitVec.toNat at h2
  omega

theorem count_filter_ite {α : Type} [DecidableEq α] (q : α → Bool) (x : α) (l : List α) :
    (l.filter q).count x = if q x then l.count x else 0 := by
  split_ifs with h
  · exact List.count_filter h
  · exact List.count_eq_zero.mpr fun hx => h (List.of_mem_filter hx)

/-- Entries keyed per principal, counted over a list of distinct principals. -/
theorem count_flatMap_of_nodup (blk : Principal → List KeytabEntry)
    (hblk : ∀ p, ∀ y ∈ blk p, y.principal = p) (x : KeytabEntry) :
    ∀ {D : List Principal}, D.Nodup →
      (D.flatMap blk).count x = if x.principal ∈ D then (blk x.principal).count x else 0
  | [], _ => by simp
  | p :: D, hD => by
    rw [List.flatMap_cons, List.count_append, count_flatMap_of_nodup blk hblk x (List.nodup_cons.mp hD).2]
    by_cases hP : x.principal = p
    · subst hP
      simp [(List.nodup_cons.mp hD).1]
    · have : (blk p).count x = 0 := List.count_eq_zero.mpr fun hm => hP (hblk p x hm)
      simp [hP, this]

section Loop

variable (env : Env) (log : List Write) (e : Enroll)

/-- The entries a principal gets with salt index `s`, when they all derive. -/
def keytabBlock (s : Nat) (p : Principal) : List KeytabEntry :=
  (keytabEntriesFor env p e.kvno (e.computerPassword.getD "") (saltFor env e s p)
    (adcliEnrollGetKeytabEnctypes e)).getD []

theorem principal_of_mem_keytabBlock (s : Nat) (p : Principal) (y : KeytabEntry)
    (hy : y ∈ keytabBlock env e s p) : y.principal = p := by
  unfold keytabBlock at hy
  cases h : keytabEntriesFor env p e.kvno (e.computerPassword.getD "") (saltFor env e s p)
    (adcliEnrollGetKeytabEnctypes e) with
  | none => simp [h] at hy
  | some blk => rw [h, Option.getD_some] at hy; exact (principal_of_mem_keytabEntriesFor env h hy).1

/-- A pass over a principal aborts only on a `NULL` password. -/
theorem addPrincipalToKeytab_ne_none (p : Principal) (w : Option Nat) (kt : List KeytabEntry)
    (hpw : e.computerPassword.isSome) : addPrincipalToKeytab env log e p w kt ≠ none := by
  obtain ⟨pw, hpw⟩ := Option.isSome_iff_exists.mp hpw
  simp only [addPrincipalToKeytab, hpw]
  split_ifs
  · exact Option.some_ne_none _
  · split <;> exact Option.some_ne_none _

/-- With a password set, the loop over the principals never aborts. -/
theorem updateKeytabLoop_ne_none (hpw : e.computerPassword.isSome) :
    ∀ (L : List Principal) (w : Option Nat) (kt : List KeytabEntry), updateKeytabLoop env log e L w kt ≠ none
  | [], _, _ => Option.some_ne_none _
  | p :: L, w, kt => by
    rw [updateKeytabLoop]
    split
    · exact absurd ‹_› (addPrincipalToKeytab_ne_none env log e p w kt hpw)
    · split_ifs
      · exact Option.some_ne_none _
      · exact updateKeytabLoop_ne_none hpw L _ _

/-- A failed run failed on one principal `p`: the run over the principals `pre` before it
succeeded, the pass over `p` returned the failure and the keytab the run leaves, and the
entries of every principal not among `pre` and `p` are as they were. -/
theorem updateKeytabLoop_fail : ∀ (L : List Principal) (w : Option Nat) (kt : List KeytabEntry)
    {res : AdcliResult} {kt' : List KeytabEntry}, updateKeytabLoop env log e L w kt = some (res, kt') →
    res ≠ .success → ∃ pre p post kti wi w', L = pre ++ p :: post ∧
      updateKeytabLoop env log e pre w kt = some (.success, kti) ∧
      addPrincipalToKeytab env log e p wi kti = some (res, w', kt') ∧
      kt'.filter (fun y => y.principal ∉ pre ++ [p]) = kt.filter (fun y => y.principal ∉ pre ++ [p])
  | [], _, _, _, _, h, hres => by cases h; exact absurd rfl hres
  | p :: L, w, kt, res, kt', h, hres => by
    simp only [updateKeytabLoop] at h
    split at h
    · cases h
    rename_i res1 w1 kt1 h1
    obtain ⟨hframe, -⟩ := addPrincipalToKeytab_eq env log e h1
    split_ifs at h with hr1
    · cases h
      exact ⟨[], p, L, kt, w, w1, rfl, rfl, h1, hframe _ fun y hy => by simpa using hy⟩
    · obtain ⟨pre, q, post, kti, wi, w', rfl, hpre, hq, hL⟩ := updateKeytabLoop_fail _ w1 kt1 h hres
      refine ⟨p :: pre, q, post, kti, wi, w', rfl, ?_, hq, ?_⟩
      · rw [updateKeytabLoop, h1]
        simpa only [if_neg hr1] using hpre
      have hsplit : ∀ l : List KeytabEntry, l.filter (fun y => y.principal ∉ (p :: pre) ++ [q]) =
          (l.filter fun y => y.principal ∉ pre ++ [q]).filter fun y => y.principal ≠ p := by
        intro l
        rw [List.filter_filter]
        exact List.filter_congr fun y _ => by simp [and_comm]
      rw [hsplit, hL, ← hsplit]
      refine hframe _ fun y hy => ?_
      simp only [List.cons_append, List.mem_cons, not_or, decide_eq_true_eq] at hy
      exact hy.1

/-- A run that succeeds keeps, of each entry, the count it had when its principal is not
in the list or it is at the previous version, and adds the entries of each listed
principal with salt index `s`, the one it was given or the first principal discovered. -/
theorem updateKeytabLoop_count (s : Nat) : ∀ (L : List Principal) (w : Option Nat) (kt : List KeytabEntry)
    {kt' : List KeytabEntry},
    (w = some s ∨ w = none ∧ ∀ p ∈ L.head?, keytabDiscoverSalt env log p e.kvno (e.computerPassword.getD "")
      (adcliEnrollGetKeytabEnctypes e) (buildPrincipalSalts env e p) = some s) →
    updateKeytabLoop env log e L w kt = some (.success, kt') →
    (∀ p ∈ L, keytabEntriesFor env p e.kvno (e.computerPassword.getD "") (saltFor env e s p)
      (adcliEnrollGetKeytabEnctypes e) = some (keytabBlock env e s p)) ∧
    ∀ x, kt'.count x = (if x.principal ∉ L ∨ x.vno + 1 = e.kvno then kt.count x else 0) +
      (if x.principal ∈ L then (keytabBlock env e s x.principal).count x else 0)
  | [], _, kt, kt', _, h => by cases h; simp
  | p :: L, w, kt, kt', hw, h => by
    simp only [updateKeytabLoop] at h
    split at h
    · cases h
    rename_i res1 w1 kt1 h1
    split_ifs at h with hr1
    · cases h
      exact absurd rfl hr1
    obtain ⟨s1, blk, rfl, hws, hblk, rfl⟩ := (addPrincipalToKeytab_eq env log e h1).2 (not_not.mp hr1)
    obtain rfl : s1 = s := by
      rcases hw with rfl | ⟨rfl, hd⟩ <;> rcases hws with hws | ⟨hws, hd'⟩
      · exact (Option.some.inj hws).symm
      · cases hws
      · cases hws
      · exact Option.some.inj ((hd' ▸ hd p rfl).symm) |>.symm
    have hkb : keytabBlock env e s1 p = blk := by simp [keytabBlock, hblk]
    obtain ⟨hall, hcount⟩ := updateKeytabLoop_count s1 L (some s1) _ (.inl rfl) h
    refine ⟨fun q hq => ?_, fun x => ?_⟩
    · rcases List.mem_cons.mp hq with rfl | hq
      · rw [hkb, hblk]
      · exact hall q hq
    have hB0 : x.principal ≠ p ∨ x.vno + 1 = e.kvno → blk.count x = 0 := by
      refine fun hx => List.count_eq_zero.mpr fun hmem => ?_
      obtain ⟨h1, h2⟩ := principal_of_mem_keytabEntriesFor env hblk hmem
      rcases hx with hx | hx
      · exact hx h1
      · exact uint32_succ_ne _ (h2 ▸ hx)
    rw [hcount x, List.count_append, count_filter_ite]
    by_cases hP : x.principal = p <;> by_cases hold : x.vno + 1 = e.kvno
    · simp [matchPrincipalAndKvno, hP, hold, hkb, hB0 (.inr hold)]
    · simp only [matchPrincipalAndKvno, hP, hold, beq_self_eq_true, hkb]
      by_cases hpL : p ∈ L <;> simp [hpL, hold]
    · simp [matchPrincipalAndKvno, hP, hold, hB0 (.inl hP)]
    · simp [matchPrincipalAndKvno, hP, hold, hB0 (.inl hP)]

end Loop

section Written

variable (env : Env) (log : List Write) (e : Enroll)

theorem keytabClearScan_subset (sel : KeytabEntry → Bool) :
    ∀ xs kt : List KeytabEntry, (keytabClearScan env sel xs kt).2 ⊆ kt
  | [], kt => List.Subset.refl kt
  | x :: xs, kt => by
    simp only [keytabClearScan]
    split_ifs
    · exact List.Subset.refl kt
    · exact (keytabClearScan_subset sel xs _).trans (List.erase_subset _ _)
    · exact keytabClearScan_subset sel xs kt

/-- What `_adcli_krb5_keytab_add_entries` adds is the principal's, at the kvno, keyed from
the password and the salt. -/
theorem keytabAddEntries_mem (principal : Principal) (kvno : UInt32) (password : String)
    (salt : Option String) : ∀ (enctypes : List Int) (kt : List KeytabEntry),
      ∀ y ∈ (keytabAddEntries env principal kvno password salt enctypes kt).2,
        y ∈ kt ∨ y.principal = principal ∧ y.vno = kvno ∧ env.stringToKey y.enctype password salt = some y.key
  | [], _, _, hy => .inl hy
  | et :: enctypes, kt, y, hy => by
    simp only [keytabAddEntries] at hy
    split at hy
    · exact .inl hy
    rename_i key hkey
    split_ifs at hy
    · exact .inl hy
    rcases keytabAddEntries_mem principal kvno password salt enctypes _ y hy with hy | hy
    · rcases List.mem_append.mp hy with hy | hy
      · exact .inl hy
      · exact .inr (by rw [List.mem_singleton.mp hy]; exact ⟨rfl, rfl, hkey⟩)
    · exact .inr hy

/-- An entry the keytab update writes for context `e`: of one of the principals `L`, at the
context's kvno, with the key of its enctype derived from the context's password. -/
def Keyed (env : Env) (e : Enroll) (L : List Principal) (y : KeytabEntry) : Prop :=
  y.principal ∈ L ∧ y.vno = e.kvno ∧
    ∃ pw salt, e.computerPassword = some pw ∧ env.stringToKey y.enctype pw salt = some y.key

theorem Keyed.mono {L L' : List Principal} {y : KeytabEntry} (hL : L ⊆ L') (h : Keyed env e L y) :
    Keyed env e L' y :=
  ⟨hL h.1, h.2⟩

/-- One principal's pass writes only the principal's entries, keyed at the context's kvno. -/
theorem addPrincipalToKeytab_mem {p : Principal} {w w' : Option Nat} {kt kt' : List KeytabEntry}
    {res : AdcliResult} (h : addPrincipalToKeytab env log e p w kt = some (res, w', kt')) :
    ∀ y ∈ kt', y ∈ kt ∨ Keyed env e [p] y := by
  simp only [addPrincipalToKeytab] at h
  have hsub : (keytabClear env (matchPrincipalAndKvno p e.kvno) kt).2 ⊆ kt :=
    keytabClearScan_subset env _ kt kt
  generalize keytabClear env _ kt = c at h hsub
  obtain ⟨cleared, kt1⟩ := c
  split_ifs at h
  · cases h
    exact fun y hy => .inl (hsub hy)
  cases hpw : e.computerPassword with
  | none => simp [hpw] at h
  | some pw =>
    simp only [hpw] at h
    split at h
    · cases h
      exact fun y hy => .inl (hsub hy)
    simp only [Option.some.injEq, Prod.mk.injEq] at h
    obtain ⟨-, -, rfl⟩ := h
    exact fun y hy => (keytabAddEntries_mem env _ _ _ _ _ kt1 y hy).imp (fun hy => hsub hy)
      fun ⟨hp, hv, hk⟩ => ⟨List.mem_singleton.mpr hp, hv, pw, _, hpw, hk⟩

/-- **The keytab update writes only the listed principals' keys, at the kvno.** Whether it
succeeds or fails, every entry it leaves was in the keytab before, or belongs to one of
the principals it was given, has the context's kvno and a key derived from the context's
password. -/
theorem updateKeytabLoop_mem : ∀ (L : List Principal) (w : Option Nat) (kt : List KeytabEntry)
    {res : AdcliResult} {kt' : List KeytabEntry}, updateKeytabLoop env log e L w kt = some (res, kt') →
    ∀ y ∈ kt', y ∈ kt ∨ Keyed env e L y
  | [], _, _, _, _, h => by cases h; exact fun y hy => .inl hy
  | p :: L, w, kt, res, kt', h => by
    simp only [updateKeytabLoop] at h
    split at h
    · cases h
    rename_i res1 w1 kt1 h1
    have hstep : ∀ y ∈ kt1, y ∈ kt ∨ Keyed env e (p :: L) y := fun y hy =>
      (addPrincipalToKeytab_mem env log e h1 y hy).imp_right
        (Keyed.mono env e fun q hq => List.mem_singleton.mp hq ▸ List.mem_cons_self _ _)
    split_ifs at h
    · cases h
      exact hstep
    · exact fun y hy => (updateKeytabLoop_mem L w1 kt1 h y hy).elim (hstep y)
        fun hk => .inr (Keyed.mono env e (List.subset_cons_self _ _) hk)

theorem updateKeytabForPrincipals_mem {kt kt' : List KeytabEntry} {res : AdcliResult}
    (h : updateKeytabForPrincipals env log e kt = some (res, kt')) :
    ∀ y ∈ kt', y ∈ kt ∨ Keyed env e (nullTerminated (e.keytabPrincipals.getD [])) y := by
  unfold updateKeytabForPrincipals at h
  cases hk : e.keytabPrincipals with
  | none => simp [hk] at h
  | some arr =>
    rw [hk] at h
    exact updateKeytabLoop_mem env log e _ none kt h

end Written

/-! ## Running the update again -/

section Again

variable (env : Env) (log : List Write) (e : Enroll)

theorem vno_of_mem_keytabBlock (s : Nat) (p : Principal) (y : KeytabEntry)
    (hy : y ∈ keytabBlock env e s p) : y.vno = e.kvno := by
  unfold keytabBlock at hy
  cases h : keytabEntriesFor env p e.kvno (e.computerPassword.getD "") (saltFor env e s p)
    (adcliEnrollGetKeytabEnctypes e) with
  | none => simp [h] at hy
  | some blk => rw [h, Option.getD_some] at hy; exact (principal_of_mem_keytabEntriesFor env h hy).2

/-- A successful run with no salt known discovered one for the first principal. -/
theorem updateKeytabLoop_salt {L : List Principal} {kt kt' : List KeytabEntry}
    (h : updateKeytabLoop env log e L none kt = some (.success, kt')) :
    ∃ s, ∀ p ∈ L.head?, keytabDiscoverSalt env log p e.kvno (e.computerPassword.getD "")
      (adcliEnrollGetKeytabEnctypes e) (buildPrincipalSalts env e p) = some s := by
  cases L with
  | nil => exact ⟨0, by simp⟩
  | cons p L =>
    simp only [updateKeytabLoop] at h
    split at h
    · cases h
    rename_i res1 w1 kt1 h1
    split_ifs at h with hr1
    · cases h
      exact absurd rfl hr1
    obtain ⟨s1, -, -, hws, -⟩ := (addPrincipalToKeytab_eq env log e h1).2 (not_not.mp hr1)
    rcases hws with hws | ⟨-, hd⟩
    · cases hws
    · exact ⟨s1, fun p' hp' => by cases hp'; exact hd⟩

/-- **The keytab update is idempotent.** Run again with the same context on the keytab it
left, a successful `update_keytab_for_principals` leaves the same entries, up to order: the
second pass removes the entries the first wrote at the kvno and writes the same ones back,
and keeps the previous version's; no entry is duplicated. -/
theorem updateKeytabForPrincipals_idem {kt kt1 kt2 : List KeytabEntry}
    (h1 : updateKeytabForPrincipals env log e kt = some (.success, kt1))
    (h2 : updateKeytabForPrincipals env log e kt1 = some (.success, kt2)) : kt2.Perm kt1 := by
  obtain ⟨L, hL1, hL2⟩ : ∃ L, updateKeytabLoop env log e L none kt = some (.success, kt1) ∧
      updateKeytabLoop env log e L none kt1 = some (.success, kt2) := by
    unfold updateKeytabForPrincipals at h1 h2
    cases hk : e.keytabPrincipals with
    | none => simp [hk] at h1
    | some arr => rw [hk] at h1 h2; exact ⟨_, h1, h2⟩
  obtain ⟨s, hs⟩ := updateKeytabLoop_salt env log e hL1
  obtain ⟨-, hc1⟩ := updateKeytabLoop_count env log e s L none kt (.inr ⟨rfl, hs⟩) hL1
  obtain ⟨-, hc2⟩ := updateKeytabLoop_count env log e s L none kt1 (.inr ⟨rfl, hs⟩) hL2
  refine List.perm_iff_count.mpr fun x => ?_
  rw [hc2 x, hc1 x]
  by_cases hP : x.principal ∈ L <;> by_cases hold : x.vno + 1 = e.kvno
  · have h0 : (keytabBlock env e s x.principal).count x = 0 := List.count_eq_zero.mpr fun hm =>
      uint32_succ_ne _ (vno_of_mem_keytabBlock env e s _ x hm ▸ hold)
    simp [hP, hold, h0]
  all_goals simp [hP, hold]

end Again

/-- The computer principal alone, keyed twice in `sampleEnv` from an empty keytab. -/
theorem updateKeytabForPrincipals_idem_host01 :
    ∃ kt1 kt2, updateKeytabForPrincipals sampleEnv []
        { computerName := some "HOST01", computerPassword := some "secret", kvno := 2,
          keytabPrincipals := some [some ⟨["HOST01$"], "CORP.EXAMPLE.COM"⟩, none] } [] = some (.success, kt1) ∧
      updateKeytabForPrincipals sampleEnv []
        { computerName := some "HOST01", computerPassword := some "secret", kvno := 2,
          keytabPrincipals := some [some ⟨["HOST01$"], "CORP.EXAMPLE.COM"⟩, none] } kt1 = some (.success, kt2) ∧
      kt2.Perm kt1 :=
  ⟨_, _, rfl, rfl, @updateKeytabForPrincipals_idem sampleEnv []
    { computerName := some "HOST01", computerPassword := some "secret", kvno := 2,
      keytabPrincipals := some [some ⟨["HOST01$"], "CORP.EXAMPLE.COM"⟩, none] } [] _ _ rfl rfl⟩

end Adcli

/-
A directory server for the join to run against. It holds the domain's objects by DN with
their attributes' values, and each account's key version and password; it evaluates
search filters and resolves a principal to the account it names. `Server.env` answers the
join's LDAP and password calls from the directory that the writes sent so far have made
(`Server.state`), and leaves every other call to a base environment. Against such a
server what the join leaves is a statement about the directory: when it succeeds, the
account it placed holds the values it computed, no other object has changed, and the
kvno it keys the keytab with is the account's.
-/
import Adcli.Writes

namespace Adcli

/-- The code `LDAP_ALREADY_EXISTS`. -/
def ldapAlreadyExists : Int := 0x44

/-- The attribute `msDS-KeyVersionNumber`, which the server constructs from the account's
key version. -/
def kvnoAttr : String := "msDS-KeyVersionNumber"

/-- The function `f` with its value at `k` set to `v`: an `if` on the key, so that it
evaluates without building proofs of equality. -/
def setAt {β : Type} (f : String → β) (k : String) (v : β) : String → β :=
  fun x => if x = k then v else f x

@[simp] theorem setAt_same {β : Type} (f : String → β) (k : String) (v : β) : setAt f k v k = v := if_pos rfl

theorem setAt_ne {β : Type} {f : String → β} {k x : String} {v : β} (h : x ≠ k) : setAt f k v x = f x :=
  if_neg h

@[simp] theorem setAt_idem {β : Type} (f : String → β) (k : String) (v w : β) :
    setAt (setAt f k v) k w = setAt f k w := by
  funext x; unfold setAt; split_ifs <;> rfl

theorem setAt_eq_self {β : Type} {f : String → β} {k : String} {v : β} (h : v = f k) : setAt f k v = f := by
  funext x; unfold setAt; split_ifs with hx
  · rw [hx, h]
  · rfl

/-- The attributes of an object after one mod: a replace sets the mod's attribute to its
values, an add (`mod_op` `0`) appends them; an attribute with no value is absent. The
engine sends no other kind of mod. -/
def applyMod (a : String → List String) (m : LdapMod) : String → List String :=
  setAt a m.type (if m.op = ldapModReplace then m.values else a m.type ++ m.values)

/-! ## Applying mods -/

/-- Mods of other attributes leave an attribute as it is. -/
theorem foldl_applyMod_of_not_mem {t : String} :
    ∀ (ms : List LdapMod) (a : String → List String), t ∉ ms.map (·.type) → ms.foldl applyMod a t = a t
  | [], _, _ => rfl
  | m :: ms, a, ht => by
    simp only [List.map_cons, List.mem_cons, not_or] at ht
    rw [List.foldl_cons, foldl_applyMod_of_not_mem ms _ ht.2, applyMod, setAt_ne ht.1]

/-- Among mods of distinct attributes, each attribute is set by its own mod. -/
theorem foldl_applyMod_of_mem {m : LdapMod} :
    ∀ (ms : List LdapMod) (a : String → List String), (ms.map (·.type)).Nodup → m ∈ ms →
      ms.foldl applyMod a m.type = applyMod a m m.type
  | [], _, _, hm => absurd hm (List.not_mem_nil _)
  | m' :: ms, a, hnd, hm => by
    rw [List.map_cons, List.nodup_cons] at hnd
    rw [List.foldl_cons]
    rcases List.mem_cons.mp hm with rfl | hm
    · exact foldl_applyMod_of_not_mem ms _ hnd.1
    · have hne : m'.type ≠ m.type := fun h => hnd.1 (h ▸ List.mem_map_of_mem _ hm)
      rw [foldl_applyMod_of_mem ms _ hnd.2 hm]
      simp only [applyMod, setAt_same, setAt_ne hne.symm]

/-- A mod of distinct attributes that a sublist leaves out has its attribute outside it. -/
theorem type_not_mem_of_sublist {ms sub : List LdapMod} (hnd : (ms.map (·.type)).Nodup)
    (hsub : sub.Sublist ms) {m : LdapMod} (hm : m ∈ ms) (hnm : m ∉ sub) : m.type ∉ sub.map (·.type) := by
  intro h
  obtain ⟨m', hm', heq⟩ := List.mem_map.mp h
  exact hnm (List.inj_on_of_nodup_map hnd (hsub.subset hm') hm heq ▸ hm')

/-- An add of the non-empty mods, each an add, gives every mod's attribute the mod's values. -/
theorem foldl_applyMod_prune {ms : List LdapMod} (hnd : (ms.map (·.type)).Nodup)
    (hop : ∀ m ∈ ms, m.op ≠ ldapModReplace) {m : LdapMod} (hm : m ∈ ms) :
    (pruneEmptyMods ms).foldl applyMod (fun _ => []) m.type = m.values := by
  have hsub : (pruneEmptyMods ms).Sublist ms := List.filter_sublist ms
  by_cases hv : m.values = []
  · rw [hv, foldl_applyMod_of_not_mem _ _ (type_not_mem_of_sublist hnd hsub hm fun h => ?_)]
    simpa [pruneEmptyMods, hv] using (List.mem_filter.mp h).2
  · rw [foldl_applyMod_of_mem _ _ ((hsub.map _).nodup hnd) (List.mem_filter.mpr ⟨hm, by simpa using hv⟩),
      applyMod, setAt_same, if_neg (hop m hm), List.nil_append]

/-- The mods of the account are of distinct attributes, each an add. -/
theorem computerAccountMods_types (sam : Option String) :
    ((computerAccountMods sam).map (·.type)).Nodup ∧ ∀ m ∈ computerAccountMods sam, m.op = 0 ∧ m.type ≠ kvnoAttr := by
  have htypes : (computerAccountMods sam).map (·.type) = ["objectClass", "sAMAccountName", "userAccountControl"] := rfl
  refine ⟨by rw [htypes]; decide, fun m hm => ?_⟩
  simp only [computerAccountMods, List.mem_cons, List.mem_singleton, List.not_mem_nil, or_false] at hm
  rcases hm with rfl | rfl | rfl <;> exact ⟨rfl, by dsimp only; decide⟩

/-- The account's three mods, read off the account. -/
theorem computerAccountMods_holds {sam : Option String} {a : String → List String}
    (h : ∀ m ∈ computerAccountMods sam, a m.type = m.values) :
    a "objectClass" = ["computer"] ∧ a "sAMAccountName" = sam.toList ∧ a "userAccountControl" = ["69632"] :=
  ⟨h ⟨0, "objectClass", ["computer"]⟩ (by simp [computerAccountMods]),
    h ⟨0, "sAMAccountName", sam.toList⟩ (by simp [computerAccountMods]),
    h ⟨0, "userAccountControl", ["69632"]⟩ (by simp [computerAccountMods])⟩

/-! ## The key version in decimal -/

/-- The digit fold of `decValue` from any accumulator. -/
theorem foldl_decValue (ds : List Char) : ∀ acc : Nat,
    ds.foldl (fun n d => 10 * n + (d.toNat - '0'.toNat)) acc = acc * 10 ^ ds.length + decValue ds := by
  induction ds with
  | nil => intro acc; simp [decValue]
  | cons d ds ih =>
    intro acc
    rw [decValue, List.foldl_cons, List.foldl_cons, ih, ih (10 * 0 + _), List.length_cons, Nat.pow_succ,
      Nat.add_mul, Nat.mul_comm 10 acc, Nat.mul_assoc, Nat.mul_comm 10, Nat.add_mul, Nat.mul_zero, Nat.zero_mul,
      Nat.zero_add, Nat.add_assoc]

theorem decValue_cons (d : Char) (ds : List Char) :
    decValue (d :: ds) = (d.toNat - '0'.toNat) * 10 ^ ds.length + decValue ds := by
  rw [decValue, List.foldl_cons, foldl_decValue, Nat.mul_zero, Nat.zero_add]

/-- The digits `Nat.toDigits` writes in base 10 are decimal digits of the number's value. -/
theorem toDigitsCore_decValue : ∀ (fuel n : Nat) (ds : List Char), n < fuel → (∀ c ∈ ds, c.isDigit = true) →
    (∀ c ∈ Nat.toDigitsCore 10 fuel n ds, c.isDigit = true) ∧ Nat.toDigitsCore 10 fuel n ds ≠ [] ∧
      decValue (Nat.toDigitsCore 10 fuel n ds) = n * 10 ^ ds.length + decValue ds
  | 0, _, _, h, _ => absurd h (Nat.not_lt_zero _)
  | fuel + 1, n, ds, h, hds => by
    have hdig : ∀ d, d < 10 → (Nat.digitChar d).isDigit = true ∧ (Nat.digitChar d).toNat - '0'.toNat = d := by
      decide
    obtain ⟨hd1, hd2⟩ := hdig (n % 10) (Nat.mod_lt _ (by decide))
    have hds' : ∀ c ∈ Nat.digitChar (n % 10) :: ds, c.isDigit = true := by
      simp only [List.mem_cons, forall_eq_or_imp]; exact ⟨hd1, hds⟩
    rw [show Nat.toDigitsCore 10 (fuel + 1) n ds = if n / 10 = 0 then Nat.digitChar (n % 10) :: ds
      else Nat.toDigitsCore 10 fuel (n / 10) (Nat.digitChar (n % 10) :: ds) from rfl]
    split_ifs with hn
    · refine ⟨hds', List.cons_ne_nil _ _, ?_⟩
      rw [decValue_cons, hd2, Nat.mod_eq_of_lt (by omega)]
    · obtain ⟨h1, h2, h3⟩ := toDigitsCore_decValue fuel (n / 10) _ (by omega) hds'
      refine ⟨h1, h2, ?_⟩
      rw [h3, decValue_cons, hd2, List.length_cons, Nat.pow_succ, ← Nat.add_assoc, Nat.mul_comm (10 ^ ds.length) 10,
        ← Nat.mul_assoc, ← Nat.add_mul, Nat.mul_comm (n / 10) 10, Nat.div_add_mod]

/-- **`strtoul` reads back the decimal rendering of a number up to `ULONG_MAX`.** -/
theorem strtoul_repr {n : Nat} (hn : n ≤ ulongMax) : strtoul (Nat.repr n).data = (n, []) := by
  obtain ⟨hdig, hne, hval⟩ := toDigitsCore_decValue (n + 1) n [] (Nat.lt_succ_self n) (fun _ h => absurd h (List.not_mem_nil _))
  have h := @strtoul_numeral [] [] _ (fun _ h => absurd h (List.not_mem_nil _)) (.inl rfl) hne hdig
  rw [List.nil_append, List.nil_append] at h
  have hval' : decValue (Nat.toDigitsCore 10 (n + 1) n []) = n := by rw [hval]; simp [decValue]
  rw [show (Nat.repr n).data = Nat.toDigitsCore 10 (n + 1) n [] from rfl, h, hval', if_neg (by omega),
    if_neg (by decide)]

/-! ## What the join reads -/

/-- What this module assumes of `_adcli_ldap_have_mod` (adldap.c, not in the sources): it
finds a mod among values only when they are the mod's values. -/
def HaveModSound (env : Env) : Prop := ∀ m vals, env.haveMod m vals = true → vals = m.values

/-- An entry read for an object with attributes `a` is fresh for attribute `t` when the
values it gives for `t` are the object's. -/
def Fresh (en : Option LdapEntry) (a : String → List String) (t : String) : Prop :=
  ∀ vals, (en.bind fun en => en.values t) = some vals → vals = a t

/-- A read that is fresh for an attribute stays fresh while the attribute keeps its values. -/
theorem Fresh.congr {en : Option LdapEntry} {a a' : String → List String} {t : String}
    (hf : Fresh en a t) (ht : a' t = a t) : Fresh en a' t :=
  fun vals h => (hf vals h).trans ht.symm

/-- A fresh entry matches a mod only when the object holds the mod's values. -/
theorem modMatches_fresh {env : Env} (hmod : HaveModSound env) {en : Option LdapEntry}
    {a : String → List String} {m : LdapMod} (hf : Fresh en a m.type) (hm : modMatches env en m = true) :
    a m.type = m.values := by
  unfold modMatches at hm
  split at hm
  · cases hm
  · rename_i en
    split at hm
    · cases hm
    · rename_i vals hvals
      exact (hf vals (by simp [hvals])).symm.trans (hmod m vals hm)

/-- A modify of the mods a fresh entry does not match, each made a replace, leaves every
mod's attribute at the mod's values, when the mods are of distinct attributes. -/
theorem foldl_applyMod_filter {env : Env} (hmod : HaveModSound env) {en : Option LdapEntry}
    {a : String → List String} {ms : List LdapMod} (hnd : (ms.map (·.type)).Nodup)
    (hf : ∀ m ∈ ms, Fresh en a m.type) {m : LdapMod} (hm : m ∈ ms) :
    ((ms.filter fun m => !modMatches env en m).map fun m => { m with op := ldapModReplace }).foldl
      applyMod a m.type = m.values := by
  have hsub := List.filter_sublist (p := fun m => !modMatches env en m) ms
  have htypes : ∀ l : List LdapMod, (l.map fun m => { m with op := ldapModReplace }).map (·.type) = l.map (·.type) :=
    fun l => by simp only [List.map_map]; rfl
  by_cases hk : modMatches env en m = true
  · have hout : m ∉ ms.filter fun m => !modMatches env en m := by simp [List.mem_filter, hk]
    have hnot := type_not_mem_of_sublist hnd hsub hm hout
    rw [← htypes] at hnot
    rw [foldl_applyMod_of_not_mem _ _ hnot, modMatches_fresh hmod (hf m hm) hk]
  · have hm' : { m with op := ldapModReplace } ∈ (ms.filter fun m => !modMatches env en m).map
        fun m => { m with op := ldapModReplace } := List.mem_map_of_mem _ (List.mem_filter.mpr ⟨hm, by simpa using hk⟩)
    have hnd' := (hsub.map (·.type)).nodup hnd
    rw [← htypes] at hnd'
    rw [foldl_applyMod_of_mem (m := { m with op := ldapModReplace }) _ _ hnd' hm']
    simp only [applyMod, setAt_same, if_true]

/-- The cached value of an attribute is the first value of the cached entry. -/
theorem parseValue_attributesEntry (e : Enroll) (t : String) :
    e.computerAttributes.bind (·.parseValue t) = (e.attributesEntry.bind (·.values t)).bind List.head? := by
  unfold Enroll.attributesEntry
  cases e.computerAttributes with
  | none => rfl
  | some r => simp only [Option.some_bind, SearchReply.parseValue, Option.bind_assoc]

/-! ## The directory -/

/-- What the server holds: the object at each DN (`none` where there is none), and the key
version and password of each account. -/
structure Directory where
  entry : String → Option (String → List String)
  kvno : String → Nat
  password : String → Option String

/-- A password write on the account at `dn`, when there is one: it takes the password and
the next key version. -/
def Directory.setKey (d : Directory) (dn : Option String) (pw : String) : Directory :=
  match dn with
  | some dn =>
    if (d.entry dn).isSome then
      { d with kvno := setAt d.kvno dn (d.kvno dn + 1),
               password := setAt d.password dn (some pw) }
    else d
  | none => d

/-- The values a search reads of attribute `t` of the object at `dn` with attributes `a`:
the key version in decimal for `msDS-KeyVersionNumber`, else the attribute's. -/
def Directory.read (d : Directory) (dn : String) (a : String → List String) (t : String) : List String :=
  if t = kvnoAttr then [Nat.repr (d.kvno dn)] else a t

@[simp] theorem Directory.setKey_entry (d : Directory) (dn : Option String) (pw : String) :
    (d.setKey dn pw).entry = d.entry := by
  unfold Directory.setKey; split
  · split_ifs <;> rfl
  · rfl

/-- A password write on an account there is. -/
theorem Directory.setKey_some {d : Directory} {dk pw : String} (h : (d.entry dk).isSome) :
    (d.setKey (some dk) pw).kvno = setAt d.kvno dk (d.kvno dk + 1) ∧
      (d.setKey (some dk) pw).password = setAt d.password dk (some pw) := by
  simp only [Directory.setKey, h, if_true, and_self]

/-- Setting the object at `dn` to what it is changes nothing. -/
theorem Directory.with_entry_self {d : Directory} {dn : String} {a : String → List String}
    (ha : d.entry dn = some a) : { d with entry := setAt d.entry dn (some a) } = d := by
  rw [setAt_eq_self ha.symm]

/-- A password write the KDC accepts re-keys the account it names. -/
theorem bind_entry_isSome {d : Directory} {o : Option String} (h : (o.bind d.entry).isSome = true) :
    ∃ dk, o = some dk ∧ (d.entry dk).isSome := by
  cases o with
  | none => cases h
  | some dk => exact ⟨dk, rfl, h⟩

/-- A directory server: the directory before the join's writes, its evaluation of search
filters, and the KDC's binding of principals, and of the connection's login, to accounts. -/
structure Server where
  init : Directory
  filterMatches : String → (String → List String) → Bool
  owner : Principal → Option String
  self : Option String

/-- A directory holding only the naming context of `sampleEnv`, with its well-known computers
container; every password call resolves to the account the join creates. -/
def sampleServer : Server where
  init := ⟨fun dn => if dn = "DC=corp,DC=example,DC=com" then some fun t =>
      if t = "wellKnownObjects" then
        ["B:32:AA312825768811D1ADED00C04FD8D5CD:CN=Computers,DC=corp,DC=example,DC=com"]
      else []
    else none, fun _ => 1, fun _ => none⟩
  filterMatches _ _ := true
  owner _ := some "CN=HOST01,CN=Computers,DC=corp,DC=example,DC=com"
  self := none

theorem sampleEnv_haveModSound : HaveModSound sampleEnv := fun _ _ h => (beq_iff_eq.mp h).symm

namespace Server

variable (s : Server)

/-- The directory after one write: an add creates the object when there is none, a modify
changes an object there is, a password write re-keys the account it names. -/
def applyWrite (d : Directory) : Write → Directory
  | .ldapAdd dn mods =>
    if (d.entry dn).isSome then d
    else { d with entry := setAt d.entry dn (some (mods.foldl applyMod fun _ => [])) }
  | .ldapModify dn mods =>
    match d.entry dn with
    | none => d
    | some a => { d with entry := setAt d.entry dn (some (mods.foldl applyMod a)) }
  | .setPassword p pw => d.setKey (s.owner p) pw
  | .changePassword pw => d.setKey s.self pw

/-- The directory once the writes of `log` are applied, oldest first. -/
def state (log : List Write) : Directory := log.foldl s.applyWrite s.init

/-- A base-scope search: no such object, or the object itself with the requested attributes
that have values, when the filter matches it. -/
def search (d : Directory) (base filter : String) (attrs : List String) : SearchReply :=
  match d.entry base with
  | none => ⟨ldapNoSuchObject, none⟩
  | some a =>
    if s.filterMatches filter a then
      ⟨ldapSuccess, some ⟨base, fun t => if t ∈ attrs ∧ d.read base a t ≠ [] then some (d.read base a t) else none⟩⟩
    else ⟨ldapSuccess, none⟩

/-- The account a password write of the join re-keys: the connection's own on a computer
login, else the one the context's principal names. -/
def passwordOwner (base : Env) (e : Enroll) : Option String :=
  if base.computerLogin then s.self else e.computerPrincipal.bind s.owner

/-- The answers of the server, on the directory the writes sent so far have made: the
searches, comparisons, adds and modifies of the directory, and the password writes of the
KDC, refused (`KRB5_KPASSWD_HARDERROR`) when the principal names no account. Every other
call is answered by `base`. -/
def env (base : Env) : Env :=
  { base with
    search := fun log b f attrs => s.search (s.state log) b f attrs
    compare := fun log dn attr v =>
      match (s.state log).entry dn with
      | none => ldapNoSuchObject
      | some a => if v ∈ a attr then ldapCompareTrue else ldapCompareFalse
    add := fun log dn _ => if ((s.state log).entry dn).isSome then ldapAlreadyExists else ldapSuccess
    modify := fun log dn _ => if ((s.state log).entry dn).isSome then ldapSuccess else ldapNoSuchObject
    setPassword := fun log p _ => (0, if ((s.owner p).bind (s.state log).entry).isSome then 0 else 2)
    changePassword := fun log _ => (0, if (s.self.bind (s.state log).entry).isSome then 0 else 2) }

/-! ## The directory a log makes -/

@[simp] theorem state_nil : s.state [] = s.init := rfl

theorem state_snoc (log : List Write) (x : Write) : s.state (log ++ [x]) = s.applyWrite (s.state log) x := by
  simp only [state, List.foldl_append, List.foldl_cons, List.foldl_nil]

/-- No write removes an object. -/
theorem applyWrite_entry_isSome {d : Directory} {dn : String} (h : (d.entry dn).isSome) :
    ∀ x, ((s.applyWrite d x).entry dn).isSome := by
  have hset : ∀ {k : String} {v}, (setAt d.entry k (some v) dn).isSome := by
    intro k v
    by_cases hk : dn = k
    · rw [hk, setAt_same]; rfl
    · rw [setAt_ne hk]; exact h
  intro x
  cases x with
  | ldapAdd dn' mods => rw [applyWrite]; split_ifs; exacts [h, hset]
  | ldapModify dn' mods => rw [applyWrite]; split; exacts [h, hset]
  | setPassword p pw => rw [applyWrite, Directory.setKey_entry]; exact h
  | changePassword pw => rw [applyWrite, Directory.setKey_entry]; exact h

/-- An object there is stays there whatever writes follow. -/
theorem foldl_applyWrite_entry_isSome {dn : String} :
    ∀ (ws : List Write) {d : Directory}, (d.entry dn).isSome → ((ws.foldl s.applyWrite d).entry dn).isSome
  | [], _, h => h
  | x :: ws, _, h => foldl_applyWrite_entry_isSome ws (s.applyWrite_entry_isSome h x)

theorem state_entry_isSome_of_prefix {log log' : List Write} (hp : log <+: log') {dn : String}
    (h : ((s.state log).entry dn).isSome) : ((s.state log').entry dn).isSome := by
  obtain ⟨ws, rfl⟩ := hp
  rw [state, List.foldl_append]
  exact s.foldl_applyWrite_entry_isSome ws h

/-- A modify of an object there is applies its mods. -/
theorem applyWrite_modify {d : Directory} {dn : String} {a : String → List String}
    (ha : d.entry dn = some a) (mods : List LdapMod) :
    s.applyWrite d (.ldapModify dn mods) = { d with entry := setAt d.entry dn (some (mods.foldl applyMod a)) } := by
  simp only [applyWrite, ha]

/-- A search reads every attribute but the key version as the object has it. -/
theorem search_fresh {d : Directory} {dn f : String} {attrs : List String} {a : String → List String}
    (hd : d.entry dn = some a) {t : String} (ht : t ≠ kvnoAttr) : Fresh (s.search d dn f attrs).entry a t := by
  intro vals h
  simp only [search, hd] at h
  split_ifs at h
  · simp only [Option.some_bind] at h
    split_ifs at h
    cases h
    simp only [Directory.read, ht, if_false]
  · cases h

/-! ## The stages of the join on the server -/

section Stages

variable {base : Env}

@[simp] theorem env_search (log : List Write) (b f : String) (attrs : List String) :
    (s.env base).search log b f attrs = s.search (s.state log) b f attrs := rfl

theorem modMatches_env : modMatches (s.env base) = modMatches base := rfl

@[simp] theorem env_formatEnctypes : (s.env base).formatEnctypes = base.formatEnctypes := rfl

@[simp] theorem env_computerLogin : (s.env base).computerLogin = base.computerLogin := rfl

/-- **A successful `create_or_update_computer_account` leaves the account holding its mods.**
It sets the object at the DN, and nothing else: created with the non-empty mods, or
modified by those a fresh read does not match. -/
theorem createOrUpdateComputerAccount_server (hmod : HaveModSound base) {allowOverwrite : Bool} {e : Enroll}
    {log log' : List Write} {dn : String} (hdn : e.computerDn = some dn)
    (h : createOrUpdateComputerAccount (s.env base) allowOverwrite e log = some (.success, log')) :
    ∃ a, s.state log' = { s.state log with entry := setAt (s.state log).entry dn (some a) } ∧
      ∀ m ∈ computerAccountMods e.computerSam, a m.type = m.values := by
  obtain ⟨hnd, hops⟩ := computerAccountMods_types e.computerSam
  rw [createOrUpdateComputerAccount_eq (s.env base) e log allowOverwrite hdn, Option.some.injEq] at h
  cases ha : (s.state log).entry dn with
  | none =>
    have hs : (s.env base).search log dn "(objectClass=*)" computerAccountAttrs = ⟨ldapNoSuchObject, none⟩ := by
      simp only [env_search, search, ha]
    simp only [hs, if_true, createComputerAccount, nullTerminated_map_append, Prod.mk.injEq] at h
    refine ⟨_, by rw [← h.2, state_snoc]; simp only [applyWrite, ha, Option.isSome_none]; rfl,
      fun m hm => foldl_applyMod_prune hnd (fun m hm => ?_) hm⟩
    rw [(hops m hm).1]; decide
  | some a =>
    have hcode : ((s.env base).search log dn "(objectClass=*)" computerAccountAttrs).code = ldapSuccess := by
      simp only [env_search, search, ha]; split <;> rfl
    have hf : ∀ m ∈ computerAccountMods e.computerSam,
        Fresh ((s.env base).search log dn "(objectClass=*)" computerAccountAttrs).entry a m.type :=
      fun m hm => search_fresh s ha (hops m hm).2
    rw [hcode, if_neg (by decide), if_pos rfl] at h
    split_ifs at h with hao hdiff
    · cases (Prod.mk.inj h).1
    · refine ⟨a, by rw [← (Prod.mk.inj h).2, Directory.with_entry_self ha], fun m hm => ?_⟩
      have hk := List.filter_eq_nil_iff.mp hdiff m hm
      exact modMatches_fresh hmod (hf m hm) (by simpa using hk)
    · have hlog := congrArg Prod.snd h
      simp only [modifyComputerAccount, nullTerminated_map_append] at hlog
      refine ⟨_, by rw [← hlog, state_snoc, applyWrite_modify s ha], fun m hm => ?_⟩
      rw [List.map_congr_left fun m hm => replace_computerAccountMods (List.mem_of_mem_filter hm)]
      exact foldl_applyMod_filter hmod hnd hf hm


/-- A read of an object whose attribute holds a mod's values, when they are not empty,
matches the mod when `_adcli_ldap_have_mod` finds equal values. -/
theorem modMatches_search (hcomplete : ∀ m, base.haveMod m m.values = true) {d : Directory} {dn f : String}
    {attrs : List String} {a : String → List String} {m : LdapMod} (hd : d.entry dn = some a)
    (hf : s.filterMatches f a = true) (ht : m.type ∈ attrs) (hk : m.type ≠ kvnoAttr) (hv : a m.type = m.values)
    (hne : m.values ≠ []) : modMatches base (s.search d dn f attrs).entry m = true := by
  simp [search, hd, hf, modMatches, Directory.read, hk, ht, hv, hne, hcomplete]

/-- **`create_or_update_computer_account` is idempotent on the server.** Once it has
succeeded, running it again with overwriting allowed reads the account holding its mods
and sends nothing, when `_adcli_ldap_have_mod` finds exactly equal values and the SAM name
is set. (A `NULL` SAM name is a mod with no value, which no read matches: that account is
modified again on every run.) -/
theorem createOrUpdateComputerAccount_again (hmod : HaveModSound base)
    (hcomplete : ∀ m, base.haveMod m m.values = true) (hall : ∀ a, s.filterMatches "(objectClass=*)" a = true)
    {allowOverwrite : Bool} {e : Enroll} {log log' : List Write} (hsam : e.computerSam.isSome)
    (h : createOrUpdateComputerAccount (s.env base) allowOverwrite e log = some (.success, log')) :
    createOrUpdateComputerAccount (s.env base) true e log' = some (.success, log') := by
  rcases hdn : e.computerDn with _ | dn
  · simp [createOrUpdateComputerAccount, hdn] at h
  obtain ⟨a, hs, ha⟩ := createOrUpdateComputerAccount_server s hmod hdn h
  have hd : (s.state log').entry dn = some a := by rw [hs]; exact setAt_same _ _ _
  have hdiff : (computerAccountMods e.computerSam).filter (fun m =>
      !modMatches (s.env base) (s.search (s.state log') dn "(objectClass=*)" computerAccountAttrs).entry m) = [] := by
    rw [List.filter_eq_nil_iff]
    intro m hm
    obtain ⟨sam, hsam⟩ := Option.isSome_iff_exists.mp hsam
    have hk := (computerAccountMods_types e.computerSam).2 m hm
    rw [hsam] at hm ha
    simp only [computerAccountMods, List.mem_cons, List.mem_singleton, List.not_mem_nil, or_false] at hm
    rw [modMatches_env, modMatches_search s hcomplete hd (hall a)
      (by rcases hm with rfl | rfl | rfl <;> simp [computerAccountAttrs])
      hk.2 (ha m (by rcases hm with rfl | rfl | rfl <;> simp [computerAccountMods]))
      (by rcases hm with rfl | rfl | rfl <;> simp)]
    decide
  have hcode : (s.search (s.state log') dn "(objectClass=*)" computerAccountAttrs).code = ldapSuccess := by
    simp [search, hd, hall]
  rw [createOrUpdateComputerAccount_eq _ _ _ true hdn]
  simp only [env_search, hdiff, hcode, if_neg (by decide : ldapSuccess ≠ ldapNoSuchObject), if_true,
    Bool.not_true, Bool.false_eq_true, if_false]

/-- The account `HOST01$` created on `sampleServer`, then reconciled again. -/
theorem createOrUpdateComputerAccount_again_host01 :
    HaveModSound sampleEnv ∧ (∀ m, sampleEnv.haveMod m m.values = true) ∧
    (∀ a, sampleServer.filterMatches "(objectClass=*)" a = true) ∧
    ∃ log', createOrUpdateComputerAccount (sampleServer.env sampleEnv) false
        { computerSam := some "HOST01$", computerDn := some "CN=HOST01,CN=Computers,DC=corp,DC=example,DC=com" }
        [] = some (.success, log') ∧
      createOrUpdateComputerAccount (sampleServer.env sampleEnv) true
        { computerSam := some "HOST01$", computerDn := some "CN=HOST01,CN=Computers,DC=corp,DC=example,DC=com" }
        log' = some (.success, log') :=
  ⟨sampleEnv_haveModSound, fun _ => beq_self_eq_true _, fun _ => rfl, _, rfl,
    @createOrUpdateComputerAccount_again sampleServer sampleEnv sampleEnv_haveModSound (fun _ => beq_self_eq_true _)
      (fun _ => rfl) false _ [] _ rfl rfl⟩

/-- **A successful password change re-keys an account there is**: the one the context's
principal names, or the connection's own on a computer login, with the context's password;
it changes no object. -/
theorem setComputerPassword_server {e : Enroll} {log log' : List Write}
    (h : setComputerPassword (s.env base) log e = some (.success, log')) :
    ∃ pw dk, e.computerPassword = some pw ∧ s.passwordOwner base e = some dk ∧ ((s.state log).entry dk).isSome ∧
      s.state log' = (s.state log).setKey (some dk) pw := by
  have ok : ∀ {c : Bool} {r : AdcliResult}, (if (0 : Int) ≠ 0 then AdcliResult.errDirectory
      else if (if c = true then (0 : Int) else 2) ≠ 0 then .errCredentials else .success) = r → r = .success → c = true := by
    intro c r h hr; subst hr; cases c <;> simp_all
  unfold setComputerPassword at h
  split_ifs at h with hc hk
  · cases (Prod.mk.inj (Option.some.inj h)).1
  · split at h
    · cases h
    · rename_i pw hpw
      obtain ⟨h1, h2⟩ := Prod.mk.inj (Option.some.inj h)
      obtain ⟨dk, hdk, hex⟩ := bind_entry_isSome (ok h1 rfl)
      refine ⟨pw, dk, hpw, by simp only [passwordOwner, show base.computerLogin = true from hc, if_true, hdk],
        hex, ?_⟩
      rw [← h2, state_snoc]; simp only [applyWrite, hdk]
  · split at h
    · rename_i pw p hpw hp
      obtain ⟨h1, h2⟩ := Prod.mk.inj (Option.some.inj h)
      obtain ⟨dk, hdk, hex⟩ := bind_entry_isSome (ok h1 rfl)
      refine ⟨pw, dk, hpw, by simp only [passwordOwner, show ¬base.computerLogin = true from hc, Bool.false_eq_true, if_false, hp,
        Option.some_bind, hdk], hex, ?_⟩
      rw [← h2, state_snoc]; simp only [applyWrite, hdk]
    · cases h

/-- **Reading the account back takes the server's key version.** With the filter
`(objectClass=*)` matching every object, a successful `retrieve_computer_account_info`
entered with no kvno caches the search of the account, which is there, and stores its key
version, modulo `2 ^ 32`, when it is at most `ULONG_MAX`. -/
theorem retrieveComputerAccountInfo_server (hall : ∀ a, s.filterMatches "(objectClass=*)" a = true)
    {e e' : Enroll} {log : List Write} {dn : String} (hdn : e.computerDn = some dn) (hkvno : e.kvno = 0)
    (h : retrieveComputerAccountInfo (s.env base) log e = some (.success, e')) :
    ∃ a, (s.state log).entry dn = some a ∧
      e'.computerAttributes = some (s.search (s.state log) dn "(objectClass=*)" accountInfoAttrs) ∧
      ((s.state log).kvno dn ≤ ulongMax → e'.kvno = ((s.state log).kvno dn).toUInt32) := by
  unfold retrieveComputerAccountInfo at h
  rw [hdn] at h
  dsimp only at h
  split_ifs at h with hattr hcode hk
  · cases h
  · exact absurd hkvno hk
  cases ha : (s.state log).entry dn with
  | none => simp only [env_search, search, ha] at hcode; exact absurd (by decide) hcode
  | some a =>
    have hv : (s.search (s.state log) dn "(objectClass=*)" accountInfoAttrs).parseValue "msDS-KeyVersionNumber" =
        some (Nat.repr ((s.state log).kvno dn)) := by
      simp [search, ha, hall, SearchReply.parseValue, Directory.read, kvnoAttr, accountInfoAttrs]
    simp only [env_search, hv] at h
    refine ⟨a, rfl, ?_, fun hn => ?_⟩
    · split at h
      · cases h
      · cases h; rfl
    · rw [strtoul_repr hn] at h
      cases h; rfl

/-- **A one-mod update leaves the account's attribute at the mod's values**, when the
account's cached attributes are fresh for it, and changes nothing else. -/
theorem updateAccountAttribute_server (hmod : HaveModSound base) {e : Enroll} {log : List Write}
    {dn type : String} {values : List String} {a : String → List String} (hdn : e.computerDn = some dn)
    (ha : (s.state log).entry dn = some a) (hf : Fresh e.attributesEntry a type) :
    s.state (updateAccountAttribute (s.env base) e log type values).2 =
      { s.state log with entry := setAt (s.state log).entry dn (some (setAt a type values)) } := by
  rw [updateAccountAttribute_eq]
  split_ifs with hm
  · have heq : setAt a type values = a :=
      setAt_eq_self (modMatches_fresh hmod hf hm).symm
    rw [heq, Directory.with_entry_self ha]
  · rw [state_snoc, hdn, cstr, applyWrite_modify s ha]
    simp only [List.foldl_cons, List.foldl_nil, applyMod, if_true]

/-- **The enctypes update leaves the account's enctypes reading as the encoding of the
enctypes in use**, when there is one and the account's cached attributes are fresh for
them; it changes no other attribute and no other object. -/
theorem updateAndCalculateEnctypes_server (hmod : HaveModSound base) {e : Enroll} {log : List Write}
    {dn : String} {a : String → List String} (hdn : e.computerDn = some dn) (ha : (s.state log).entry dn = some a)
    (hf : Fresh e.attributesEntry a "msDS-supportedEncryptionTypes") :
    ∃ a', s.state (updateAndCalculateEnctypes (s.env base) e log).2.2 =
        { s.state log with entry := setAt (s.state log).entry dn (some a') } ∧
      (∀ t, t ≠ "msDS-supportedEncryptionTypes" → a' t = a t) ∧
      ∀ v, base.formatEnctypes (adcliEnrollGetKeytabEnctypes (updateAndCalculateEnctypes (s.env base) e log).2.1) =
        some v → ( a' "msDS-supportedEncryptionTypes").head? = some v := by
  have hmod' : HaveModSound (s.env base) := hmod
  have hval := parseValue_attributesEntry e "msDS-supportedEncryptionTypes"
  simp only [updateAndCalculateEnctypes]
  generalize hE : (if e.keytabEnctypesExplicit = true then e else _) = e1
  obtain ⟨hdn1, hentry1⟩ : e1.computerDn = e.computerDn ∧ e1.attributesEntry = e.attributesEntry := by
    subst hE; split
    · exact ⟨rfl, rfl⟩
    · split <;> exact ⟨rfl, rfl⟩
  split
  · rename_i hnone
    exact ⟨a, (Directory.with_entry_self ha).symm, fun _ _ => rfl, fun v hv => absurd (hnone.symm.trans hv) (by simp)⟩
  rename_i v hv
  have hfm := filterForNecessaryUpdates_single (s.env base) e1.attributesEntry
    ⟨ldapModReplace, "msDS-supportedEncryptionTypes", [v]⟩
  have hf1 : Fresh e1.attributesEntry a "msDS-supportedEncryptionTypes" := hentry1 ▸ hf
  have hkeep : (a "msDS-supportedEncryptionTypes").head? = some v → ∃ a', s.state log =
      { s.state log with entry := setAt (s.state log).entry dn (some a') } ∧
      (∀ t, t ≠ "msDS-supportedEncryptionTypes" → a' t = a t) ∧
      ∀ v', base.formatEnctypes (adcliEnrollGetKeytabEnctypes e1) = some v' →
        ( a' "msDS-supportedEncryptionTypes").head? = some v' := fun h =>
    ⟨a, (Directory.with_entry_self ha).symm, fun _ _ => rfl, fun v' hv' => by
      rw [h, ← Option.some.inj (hv.symm.trans hv')]⟩
  generalize filterForNecessaryUpdates (s.env base) _ _ = r at hfm ⊢
  obtain ⟨mods, out⟩ := r
  split_ifs with hvalue hout
  · apply hkeep
    rw [hval] at hvalue
    obtain ⟨vals, hvals, hhead⟩ := Option.bind_eq_some.mp hvalue
    rwa [← hf vals hvals]
  · apply hkeep
    cases hm : modMatches (s.env base) e1.attributesEntry ⟨ldapModReplace, "msDS-supportedEncryptionTypes", [v]⟩
    · simp only [hm, Bool.false_eq_true, if_false, Prod.mk.injEq] at hfm
      exact absurd (hfm.2.symm.trans hout) (by decide)
    · rw [modMatches_fresh hmod' hf1 hm]; rfl
  · cases hm : modMatches (s.env base) e1.attributesEntry ⟨ldapModReplace, "msDS-supportedEncryptionTypes", [v]⟩
    · simp only [hm, Bool.false_eq_true, if_false, Prod.mk.injEq] at hfm
      refine ⟨setAt a "msDS-supportedEncryptionTypes" [v], ?_, fun t ht => setAt_ne ht,
        fun v' hv' => ?_⟩
      · rw [state_snoc, hfm.1, hdn1, hdn, cstr, applyWrite_modify s ha]
        simp only [List.foldl_cons, List.foldl_nil, applyMod, if_true]
      · rw [setAt_same, ← Option.some.inj (hv.symm.trans hv')]; rfl
    · simp only [hm, if_true, Prod.mk.injEq] at hfm
      exact absurd hfm.2 hout

/-- **The attribute updates of the join leave the account at the context's values**: its
host name and service principals, and its enctypes reading as the encoding of those in
use, when the account's cached attributes are fresh for them; no other attribute and no
other object changes. -/
theorem updateAccountAttributes_server (hmod : HaveModSound base) {e : Enroll} {log : List Write} {dn : String}
    {a : String → List String} (hdn : e.computerDn = some dn) (ha : (s.state log).entry dn = some a)
    (hf : ∀ t ∈ ["msDS-supportedEncryptionTypes", "dNSHostName", "servicePrincipalName"], Fresh e.attributesEntry a t) :
    ∃ a', s.state (updateAccountAttributes (s.env base) e log).2 =
        { s.state log with entry := setAt (s.state log).entry dn (some a') } ∧
      (∀ t ∉ ["msDS-supportedEncryptionTypes", "dNSHostName", "servicePrincipalName"], a' t = a t) ∧
      a' "dNSHostName" = e.hostFqdn.toList ∧ a' "servicePrincipalName" = e.servicePrincipals.getD [] ∧
      ∀ v, base.formatEnctypes (adcliEnrollGetKeytabEnctypes (updateAccountAttributes (s.env base) e log).1) =
        some v → ( a' "msDS-supportedEncryptionTypes").head? = some v := by
  obtain ⟨a1, h1, ha1, henc⟩ := updateAndCalculateEnctypes_server s hmod hdn ha (hf _ (by simp))
  obtain ⟨k, hk⟩ := updateAndCalculateEnctypes_fst (s.env base) e log
  rcases hu : updateAndCalculateEnctypes (s.env base) e log with ⟨_, e1, log1⟩
  rw [hu] at h1 henc hk
  dsimp only at h1 henc hk
  subst hk
  have hs1 : (s.state log1).entry dn = some a1 := by rw [h1]; exact setAt_same _ _ _
  have hf2 : Fresh e.attributesEntry a1 "dNSHostName" := (hf _ (by simp)).congr (ha1 _ (by decide))
  have h2 := @updateAccountAttribute_server s base hmod { e with keytabEnctypes := k } log1 dn "dNSHostName"
    e.hostFqdn.toList a1 hdn hs1 hf2
  set a2 := setAt a1 "dNSHostName" e.hostFqdn.toList with ha2
  have hs2 : (s.state (updateAccountAttribute (s.env base) { e with keytabEnctypes := k } log1 "dNSHostName"
      e.hostFqdn.toList).2).entry dn = some a2 := by rw [h2]; exact setAt_same _ _ _
  have hf3 : Fresh e.attributesEntry a2 "servicePrincipalName" :=
    (hf _ (by simp)).congr ((setAt_ne (by decide)).trans (ha1 _ (by decide)))
  have h3 := @updateAccountAttribute_server s base hmod { e with keytabEnctypes := k } _ dn "servicePrincipalName"
    (e.servicePrincipals.getD []) a2 hdn hs2 hf3
  refine ⟨setAt a2 "servicePrincipalName" (e.servicePrincipals.getD []), ?_, fun t ht => ?_, ?_, ?_, ?_⟩
  · simp only [updateAccountAttributes, hu, updateDnsHostName, updateServicePrincipals, h3, h2, h1,
      setAt_idem]
  · simp only [List.mem_cons, List.mem_singleton, List.not_mem_nil, or_false, not_or] at ht
    rw [setAt_ne ht.2.2, ha2, setAt_ne ht.2.1, ha1 t ht.1]
  · rw [setAt_ne (by decide), ha2, setAt_same]
  · rw [setAt_same]
  · intro v hv
    rw [setAt_ne (by decide), ha2, setAt_ne (by decide)]
    exact henc v (by simpa only [updateAccountAttributes, hu] using hv)

/-- A search of the server answers at base scope: its entry, if any, is the base object. -/
theorem search_parseDn (d : Directory) (b f : String) (attrs : List String) :
    (s.search d b f attrs).parseDn = none ∨ (s.search d b f attrs).parseDn = some b := by
  unfold search
  split
  · exact .inl rfl
  · split_ifs
    · exact .inr rfl
    · exact .inl rfl

/-- The values a search of the server gives for an attribute other than the kvno are the
object's. -/
theorem search_parseValues {d : Directory} {b f t : String} {attrs : List String} {vals : List String}
    (ht : t ≠ kvnoAttr) (h : (s.search d b f attrs).parseValues t = some vals) :
    ∃ a, d.entry b = some a ∧ vals = a t := by
  unfold search SearchReply.parseValues at h
  split at h
  · cases h
  · rename_i a hd
    split_ifs at h
    · simp only [Option.some_bind] at h
      split_ifs at h
      cases h
      exact ⟨a, hd, by simp [Directory.read, ht]⟩
    · cases h

/-- **The container lookup never finds a `CN=Computers` child.** Its second search is at
base scope, so on a server it can only return the OU itself: the container
`lookup_computer_container` sets is the DN of a well-known-objects value of the OU, or the
OU. -/
theorem lookupComputerContainer_server {log : List Write} {e e' : Enroll} {ou : String} {r : AdcliResult}
    (hou : e.preferredOu = some ou) (hcc : e.computerContainer = none)
    (h : lookupComputerContainer (s.env base) log e = some (r, e')) (hr : r = .success) :
    e'.computerContainer = some ou ∨
      ∃ a v, (s.state log).entry ou = some a ∧ v ∈ a "wellKnownObjects" ∧
        computersContainerPrefix.data.isPrefixOf v.data = true ∧
        e'.computerContainer = some ⟨v.data.drop computersContainerPrefix.length⟩ := by
  simp only [lookupComputerContainer, hou, hcc, Option.isSome_none, Bool.false_eq_true, if_false, env_search] at h
  split at h
  · cases h; cases hr
  split at h
  · rename_i v hv
    cases h
    right
    have hmem := List.mem_of_find?_eq_some hv
    have hpre := List.find?_some hv
    rcases hvals : (s.search (s.state log) ou "(objectClass=*)" ["wellKnownObjects"]).parseValues "wellKnownObjects"
      with _ | vals
    · rw [hvals] at hmem; exact absurd hmem (List.not_mem_nil _)
    · obtain ⟨a, ha, rfl⟩ := s.search_parseValues (by decide) hvals
      rw [hvals] at hmem
      exact ⟨a, v, ha, hmem, hpre, rfl⟩
  · cases h
    left
    dsimp only
    split_ifs
    · rcases s.search_parseDn (s.state log) ou "(&(objectClass=container)(cn=Computers))" ["wellKnownObjects"]
        with h0 | h0 <;> rw [h0] <;> rfl
    · rfl

/-- An OU with a `CN=Computers` container below it and no well-known-objects value. -/
def ouServer : Server where
  init := ⟨fun dn =>
      if dn = "OU=Hosts,DC=corp,DC=example,DC=com" then some fun t =>
        if t = "objectClass" then ["organizationalUnit"] else []
      else if dn = "CN=Computers,OU=Hosts,DC=corp,DC=example,DC=com" then some fun t =>
        if t = "objectClass" then ["container"] else if t = "cn" then ["Computers"] else []
      else none, fun _ => 1, fun _ => none⟩
  filterMatches f a := f = "(objectClass=*)" ∨ ("container" ∈ a "objectClass" ∧ "Computers" ∈ a "cn")
  owner _ := none
  self := none

/-- The `CN=Computers` container below the OU of `ouServer` is not found: the account is
placed in the OU itself. -/
theorem lookupComputerContainer_server_ou :
    (ouServer.init.entry "CN=Computers,OU=Hosts,DC=corp,DC=example,DC=com").isSome ∧
    ∃ r e', lookupComputerContainer (ouServer.env sampleEnv) []
        { preferredOu := some "OU=Hosts,DC=corp,DC=example,DC=com" } = some (r, e') ∧ r = .success ∧
      (e'.computerContainer = some "OU=Hosts,DC=corp,DC=example,DC=com" ∨
        ∃ a v, (ouServer.state []).entry "OU=Hosts,DC=corp,DC=example,DC=com" = some a ∧
          v ∈ a "wellKnownObjects" ∧ computersContainerPrefix.data.isPrefixOf v.data = true ∧
          e'.computerContainer = some ⟨v.data.drop computersContainerPrefix.length⟩) :=
  ⟨rfl, _, _, rfl, rfl, @lookupComputerContainer_server ouServer sampleEnv []
    { preferredOu := some "OU=Hosts,DC=corp,DC=example,DC=com" } _ "OU=Hosts,DC=corp,DC=example,DC=com" _
    rfl rfl rfl rfl⟩

end Stages

/-! ## A whole join on the server -/

section Join

variable {base : Env}

/-- **A join that succeeds against the server leaves the account as it computed it.** With
`_adcli_ldap_have_mod` sound and the filter `(objectClass=*)` matching every object, a
successful join leaves, at the DN where it placed the account, a `computer` with the SAM
name, the `userAccountControl` `69632`, the host name and the service principals of the
context it returns, and enctypes that read as the encoding of the enctypes in use; no
other object changes; the context's password re-keyed, once, the account the KDC binds the
login or the principal to; and the kvno it keys the keytab with is the placed account's
key version, modulo `2 ^ 32`. -/
theorem adcliEnrollJoin_server (hmod : HaveModSound base) (hall : ∀ a, s.filterMatches "(objectClass=*)" a = true)
    {flags : Flags} {e e' : Enroll} {w w' : World}
    (h : adcliEnrollJoin (s.env base) flags e w = some (.success, e', w')) :
    ∃ dn a, e'.computerDn = some dn ∧ (s.state w'.log).entry dn = some a ∧
      a "objectClass" = ["computer"] ∧ a "sAMAccountName" = e'.computerSam.toList ∧
      a "userAccountControl" = ["69632"] ∧ a "dNSHostName" = e'.hostFqdn.toList ∧
      a "servicePrincipalName" = e'.servicePrincipals.getD [] ∧
      (∀ v, base.formatEnctypes (adcliEnrollGetKeytabEnctypes e') = some v →
        (a "msDS-supportedEncryptionTypes").head? = some v) ∧
      (∀ dn', dn' ≠ dn → (s.state w'.log).entry dn' = (s.state w.log).entry dn') ∧
      (∃ dk pw, s.passwordOwner base e' = some dk ∧ e'.computerPassword = some pw ∧
        (s.state w'.log).password dk = some pw ∧ (s.state w'.log).kvno dk = (s.state w.log).kvno dk + 1) ∧
      ((s.state w'.log).kvno dn ≤ ulongMax → e'.kvno = ((s.state w'.log).kvno dn).toUInt32) := by
  obtain ⟨e1, w1, hp, e2, h2, log3, h3, log4, h4, e5, h5, rfl, hw'⟩ := adcliEnrollJoin_success (s.env base) flags e w h
  have hw1 := (adcliEnrollPrepare_world hp).1
  have hkvno1 : e1.kvno = 0 := adcliEnrollPrepare_kvno (s.env base) flags _ w hp
  obtain ⟨-, -, -, -, hattrs1⟩ := adcliEnrollPrepare_success_fields hp
  obtain ⟨r2, e2', h2', ⟨ou, v, cc, dn2, he2⟩, hdn2⟩ := placeComputerAccount_eq (s.env base) w1.log e1
  rw [h2, Option.some.injEq, Prod.mk.injEq] at h2'
  obtain ⟨rfl, rfl⟩ := h2'
  obtain ⟨dn, hdn⟩ := Option.isSome_iff_exists.mp (hdn2 rfl)
  obtain ⟨a3, hs3, hmods⟩ := createOrUpdateComputerAccount_server s hmod hdn h3
  obtain ⟨pw, dk, hpw, hdk, hex, hs4⟩ := setComputerPassword_server s h4
  have hkvno2 : e2.kvno = 0 := by rw [he2]; exact hkvno1
  obtain ⟨a4, ha4, hattrs5, hk5⟩ := retrieveComputerAccountInfo_server s hall hdn hkvno2 h5
  have ha34 : a4 = a3 := by
    simp only [hs4, Directory.setKey_entry, hs3, setAt_same, Option.some.injEq] at ha4
    exact ha4.symm
  subst ha34
  obtain ⟨at5, kv5, he5⟩ := retrieveComputerAccountInfo_frame (s.env base) log4 e2 h5
  have hdn5 : e5.computerDn = some dn := by rw [he5]; exact hdn
  have hf5 : ∀ t ∈ ["msDS-supportedEncryptionTypes", "dNSHostName", "servicePrincipalName"],
      Fresh e5.attributesEntry a4 t := by
    intro t ht
    have hne : t ≠ kvnoAttr := by
      simp only [List.mem_cons, List.mem_singleton, List.not_mem_nil, or_false] at ht
      rcases ht with rfl | rfl | rfl <;> decide
    rw [Enroll.attributesEntry, hattrs5, Option.some_bind]
    exact search_fresh s ha4 hne
  obtain ⟨a', hs', hother, hdns, hspn, henc⟩ := updateAccountAttributes_server s hmod hdn5 ha4 hf5
  obtain ⟨k', hk'⟩ := updateAccountAttributes_fst (s.env base) log4 e5
  obtain ⟨hoc, hsam, huac⟩ := computerAccountMods_holds hmods
  have hnot : ∀ t ∈ ["objectClass", "sAMAccountName", "userAccountControl"],
      t ∉ ["msDS-supportedEncryptionTypes", "dNSHostName", "servicePrincipalName"] := by decide
  obtain ⟨hkv, hpwd⟩ := @Directory.setKey_some _ _ pw hex
  have hsame : (updateAccountAttributes (s.env base) e5 log4).1 =
      { e2 with computerAttributes := at5, kvno := kv5, keytabEnctypes := k' } := by rw [hk', he5]
  refine ⟨dn, a', by rw [hsame]; exact hdn, by rw [hw', hs']; exact setAt_same _ _ _, ?_, ?_, ?_,
    by rw [hdns, hsame, he5], by rw [hspn, hsame, he5], henc, fun dn' hne => ?_,
    ⟨dk, pw, by rw [hsame]; exact hdk, by rw [hsame]; exact hpw, ?_, ?_⟩, ?_⟩
  · rw [hother _ (hnot _ (by simp)), hoc]
  · rw [hother _ (hnot _ (by simp)), hsam, hsame]
  · rw [hother _ (hnot _ (by simp)), huac]
  · simp only [hw', hs', hs4, Directory.setKey_entry, hs3, setAt_ne hne, hw1]
  · simp only [hw', hs', hs4, hpwd, setAt_same]
  · simp only [hw', hs', hs4]
    rw [hkv, setAt_same, hs3, hw1]
  · rw [hw', hs', hsame]
    exact (he5 ▸ hk5 : _)

/-- **Without `allow_overwrite`, a join adds and modifies only an object it created.**
Whatever the server holds, a join run without the flag that sends anything found no object
at the DN it leaves in the context, leaves one there, and sends every add and modify to that
DN. An object already at that DN stops the join at `create_or_update_computer_account` ("The
computer account ... already exists"), before any write. The password write goes to the
account the KDC binds the principal, or the login, to. -/
theorem adcliEnrollJoin_no_overwrite {flags : Flags} (hflag : flags.allowOverwrite = false)
    {e e' : Enroll} {w w' : World} {r : AdcliResult}
    (h : adcliEnrollJoin (s.env base) flags e w = some (r, e', w')) (hlog : w'.log ≠ w.log) :
    ∃ dn, e'.computerDn = some dn ∧ (s.state w.log).entry dn = none ∧ ((s.state w'.log).entry dn).isSome ∧
      ∃ ws, w'.log = w.log ++ ws ∧ ∀ x ∈ ws, ∀ d, x.ldapDn = some d → d = dn := by
  obtain ⟨ws, hws, hjw, -⟩ := (adcliEnrollJoin_world (s.env base) flags e w h).1
  obtain ⟨e2, r3, log3, hdn, h3, hstop, hpre⟩ := adcliEnrollJoin_account (s.env base) flags e w h hlog
  cases hd : e2.computerDn with
  | none => simp only [createOrUpdateComputerAccount, hd, reduceCtorEq] at h3
  | some dn =>
    rw [createOrUpdateComputerAccount_eq (s.env base) e2 w.log flags.allowOverwrite hd, hflag,
      Option.some.injEq] at h3
    cases he : (s.state w.log).entry dn with
    | some a =>
      have hcode : (s.search (s.state w.log) dn "(objectClass=*)" computerAccountAttrs).code = ldapSuccess := by
        simp only [search, he]; split_ifs <;> rfl
      simp only [env_search, hcode, if_true, Bool.not_false] at h3
      cases h3
      exact absurd (hstop (by decide)) hlog
    | none =>
      simp only [env_search, search, he, if_true] at h3
      obtain ⟨mods, rfl⟩ : ∃ mods, log3 = w.log ++ [.ldapAdd dn mods] := ⟨_, (congrArg Prod.snd h3).symm⟩
      refine ⟨dn, hdn ▸ hd, he, s.state_entry_isSome_of_prefix hpre ?_, ws, hws,
        JoinWrites.ldapDn (s.env base) e' hjw (hdn ▸ hd)⟩
      rw [state_snoc, applyWrite, he]
      simp only [Option.isSome_none, Bool.false_eq_true, if_false, setAt_same, Option.isSome_some]

end Join

end Server

/-- The host `host01.corp.example.com` joins `sampleServer`: the new account carries the
host's SAM name and DNS name. Each stage is evaluated on its own, through
`adcliEnrollJoin_of_stages`. -/
theorem adcliEnrollJoin_server_host01 :
    HaveModSound sampleEnv ∧ (∀ a, sampleServer.filterMatches "(objectClass=*)" a = true) ∧
    ∃ e' w', adcliEnrollJoin (sampleServer.env sampleEnv) { noKeytab := true }
        (adcliEnrollSetComputerPassword (adcliEnrollSetHostFqdn adcliEnrollNew
          (some "host01.corp.example.com")) (some "secret")) ⟨[], [], []⟩ = some (.success, e', w') ∧
      ∃ dn a, e'.computerDn = some dn ∧ (sampleServer.state w'.log).entry dn = some a ∧
        a "sAMAccountName" = e'.computerSam.toList ∧ a "dNSHostName" = e'.hostFqdn.toList := by
  have hall : ∀ a, sampleServer.filterMatches "(objectClass=*)" a = true := fun _ => rfl
  have hj := @adcliEnrollJoin_of_stages (sampleServer.env sampleEnv) { noKeytab := true }
    (adcliEnrollSetComputerPassword (adcliEnrollSetHostFqdn adcliEnrollNew
      (some "host01.corp.example.com")) (some "secret")) ⟨[], [], []⟩
    _ _ _ _ _ _ rfl rfl rfl rfl rfl rfl rfl rfl
  obtain ⟨dn, a, h1, h2, -, h3, -, h4, -⟩ :=
    Server.adcliEnrollJoin_server sampleServer sampleEnv_haveModSound hall hj
  exact ⟨sampleEnv_haveModSound, hall, _, _, hj, dn, a, h1, h2, h3, h4⟩

/-- The host `host01.corp.example.com` joins `sampleServer`, which holds no account for it,
without `allow_overwrite`: it creates the account. -/
theorem adcliEnrollJoin_no_overwrite_host01 :
    ({ noKeytab := true } : Flags).allowOverwrite = false ∧
    ∃ r e' w', adcliEnrollJoin (sampleServer.env sampleEnv) { noKeytab := true }
        (adcliEnrollSetComputerPassword (adcliEnrollSetHostFqdn adcliEnrollNew
          (some "host01.corp.example.com")) (some "secret")) ⟨[], [], []⟩ = some (r, e', w') ∧ w'.log ≠ [] ∧
      ∃ dn, e'.computerDn = some dn ∧ (sampleServer.state []).entry dn = none ∧
        ((sampleServer.state w'.log).entry dn).isSome ∧
        ∃ ws, w'.log = [] ++ ws ∧ ∀ x ∈ ws, ∀ d, x.ldapDn = some d → d = dn := by
  have key : ∀ {e5 : Enroll} {w1 : World} {log4 : List Write}, log4 ≠ [] →
      adcliEnrollJoin (sampleServer.env sampleEnv) { noKeytab := true }
        (adcliEnrollSetComputerPassword (adcliEnrollSetHostFqdn adcliEnrollNew
          (some "host01.corp.example.com")) (some "secret")) ⟨[], [], []⟩ =
        some (.success, (updateAccountAttributes (sampleServer.env sampleEnv) e5 log4).1,
          { w1 with log := (updateAccountAttributes (sampleServer.env sampleEnv) e5 log4).2 }) →
      ({ noKeytab := true } : Flags).allowOverwrite = false ∧
      ∃ r e' w', adcliEnrollJoin (sampleServer.env sampleEnv) { noKeytab := true }
        (adcliEnrollSetComputerPassword (adcliEnrollSetHostFqdn adcliEnrollNew
          (some "host01.corp.example.com")) (some "secret")) ⟨[], [], []⟩ = some (r, e', w') ∧ w'.log ≠ [] ∧
      ∃ dn, e'.computerDn = some dn ∧ (sampleServer.state []).entry dn = none ∧
        ((sampleServer.state w'.log).entry dn).isSome ∧
        ∃ ws, w'.log = [] ++ ws ∧ ∀ x ∈ ws, ∀ d, x.ldapDn = some d → d = dn := by
    intro e5 w1 log4 h4 hj
    obtain ⟨attrs, hl, -⟩ := updateAccountAttributes_log (sampleServer.env sampleEnv) e5 log4
    have hlog : (updateAccountAttributes (sampleServer.env sampleEnv) e5 log4).2 ≠ [] :=
      hl ▸ List.append_ne_nil_of_left_ne_nil h4 attrs
    exact ⟨rfl, _, _, _, hj, hlog, Server.adcliEnrollJoin_no_overwrite sampleServer rfl hj hlog⟩
  exact key (List.append_ne_nil_of_right_ne_nil _ (List.cons_ne_nil _ _))
    (@adcliEnrollJoin_of_stages (sampleServer.env sampleEnv) { noKeytab := true }
      (adcliEnrollSetComputerPassword (adcliEnrollSetHostFqdn adcliEnrollNew
        (some "host01.corp.example.com")) (some "secret")) ⟨[], [], []⟩
      _ _ _ _ _ _ rfl rfl rfl rfl rfl rfl rfl rfl)

end Adcli

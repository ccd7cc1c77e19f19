/-
What the enrollment engine of `adenroll.c` computes with: the result codes of
`adutil.h`, Kerberos principals and keytab entries, LDAP modifications and search
results, and what the engine sees of its collaborators. These are an environment
`Env` that answers every call the engine makes (the connection of `adconn.c`, the LDAP
server, the KDC and kpasswd service, and the Kerberos and keytab library), and a
`World` that records what the engine has changed: the writes it sent, the keytab, and
what is left of the random source.

A `char *` that may be `NULL` is an `Option String`. C strings hold no NUL, and
nothing here builds one that does, so a `String` stands for one. Allocation failures
(`return_unexpected_if_fail` on a `NULL` from `malloc` or `asprintf`) are not modelled,
nor are the connection's `NULL` checks on its Kerberos context and LDAP handle.
-/
import Mathlib.Data.List.Dedup
import Mathlib.Data.List.Perm.Basic
import Mathlib.Tactic.SplitIfs
import Mathlib.Data.UInt

namespace Adcli

/-- The codes of `adcli_result` (adutil.h). -/
inductive AdcliResult
  | success
  | errUnexpected
  | errFail
  | errDirectory
  | errConfig
  | errCredentials
  deriving DecidableEq, Repr

/-! ## LDAP -/

/-- The code `LDAP_SUCCESS`. -/
def ldapSuccess : Int := 0x00

/-- The code `LDAP_COMPARE_FALSE`. -/
def ldapCompareFalse : Int := 0x05

/-- The code `LDAP_COMPARE_TRUE`. -/
def ldapCompareTrue : Int := 0x06

/-- The code `LDAP_NO_SUCH_OBJECT`. -/
def ldapNoSuchObject : Int := 0x20

/-- The code `LDAP_INSUFFICIENT_ACCESS`. -/
def ldapInsufficientAccess : Int := 0x32

/-- The code `LDAP_OBJECT_CLASS_VIOLATION`. -/
def ldapObjectClassViolation : Int := 0x41

/-- The bit `LDAP_MOD_REPLACE`; a `mod_op` of `0` is `LDAP_MOD_ADD`. -/
def ldapModReplace : Nat := 0x0002

/-- An `LDAPMod`: its `mod_op` bits, its attribute type and its values (a `NULL` value
array is the empty list). -/
structure LdapMod where
  op : Nat
  type : String
  values : List String
  deriving DecidableEq, Repr

/-- An entry of a search result, as `ldap_get_dn` and `ldap_get_values_len` read it:
`values a` is `NULL` when the entry has no attribute `a`. -/
structure LdapEntry where
  dn : String
  values : String → Option (List String)

/-- What `ldap_search_ext_s` gives back at base scope: its return code and the first
entry of the result (`ldap_first_entry`). -/
structure SearchReply where
  code : Int
  entry : Option LdapEntry

/-- Read as `_adcli_ldap_parse_value` does: the first value of attribute `attr` in the result. -/
def SearchReply.parseValue (r : SearchReply) (attr : String) : Option String :=
  r.entry.bind fun en => (en.values attr).bind List.head?

/-- Read as `_adcli_ldap_parse_values` does: every value of attribute `attr` in the result. -/
def SearchReply.parseValues (r : SearchReply) (attr : String) : Option (List String) :=
  r.entry.bind fun en => en.values attr

/-- Read as `_adcli_ldap_parse_dn` does: the DN of the result's entry. -/
def SearchReply.parseDn (r : SearchReply) : Option String :=
  r.entry.map (·.dn)

/-- Modelled from the spec: `_adcli_ldap_handle_failure` (adldap.c) records the server's
message and fails with the kind of error its caller names ("Fails `DIRECTORY` on query
failure", "`INSUFFICIENT_ACCESS` ... is reported as `CREDENTIALS`"). -/
def ldapHandleFailure (defres : AdcliResult) : AdcliResult := defres

/-! ## Kerberos -/

/-- A `krb5_principal`: its name components and its realm. -/
structure Principal where
  components : List String
  realm : String
  deriving DecidableEq, Repr

/-- The principal `krb5_set_principal_realm` leaves. -/
def Principal.setRealm (p : Principal) (realm : String) : Principal := { p with realm }

/-- A `krb5_keytab_entry`: the principal, the key version `vno` (a `krb5_kvno`, 32 bits),
and the key with its enctype. -/
structure KeytabEntry where
  principal : Principal
  vno : UInt32
  enctype : Int
  key : List UInt8
  deriving DecidableEq, Repr

/-- The enctype `ENCTYPE_AES256_CTS_HMAC_SHA1_96`, and below it the other enctypes of
`default_enctypes` (krb5.h). -/
def enctypeAes256CtsHmacSha196 : Int := 18

def enctypeAes128CtsHmacSha196 : Int := 17

def enctypeDes3CbcSha1 : Int := 16

def enctypeArcfourHmac : Int := 23

def enctypeDesCbcMd5 : Int := 3

def enctypeDesCbcCrc : Int := 1

/-! ## The world -/

/-- What the engine sends that changes the directory or the account's keys. -/
inductive Write
  | ldapAdd (dn : String) (mods : List LdapMod)
  | ldapModify (dn : String) (mods : List LdapMod)
  | setPassword (principal : Principal) (password : String)
  | changePassword (password : String)
  deriving DecidableEq, Repr

/-- What the engine changes outside its context: the writes it has sent (oldest first),
the keytab's entries, and the octets the random source has still to deliver. -/
structure World where
  log : List Write
  keytab : List KeytabEntry
  random : List UInt8

/-- The engine's collaborators, as answers to its calls. An answer from the directory or
the KDC may depend on the writes sent so far, one from the keytab library on the keytab's
entries, so that every outcome of every call is the answer of some `Env`. -/
structure Env where
  /-- Whether the platform's `char` is signed. -/
  charSigned : Bool
  /-- Answers `adcli_conn_get_host_fqdn`. -/
  hostFqdn : Option String
  /-- Answers `adcli_conn_get_domain_realm`. -/
  domainRealm : String
  /-- Answers `adcli_conn_get_naming_context`. -/
  namingContext : String
  /-- Whether `adcli_conn_get_login_type` is `ADCLI_LOGIN_COMPUTER_ACCOUNT`. -/
  computerLogin : Bool
  /-- Answers `adcli_conn_discover`. -/
  discover : List Write → AdcliResult
  /-- Answers `adcli_conn_connect`. -/
  connect : List Write → AdcliResult
  /-- Answers `ldap_search_ext_s` at base scope: base DN, filter, attributes. -/
  search : List Write → String → String → List String → SearchReply
  /-- Answers `ldap_compare_ext_s`: DN, attribute, value. -/
  compare : List Write → String → String → String → Int
  /-- Answers `ldap_add_ext_s`. -/
  add : List Write → String → List LdapMod → Int
  /-- Answers `ldap_modify_ext_s`. -/
  modify : List Write → String → List LdapMod → Int
  /-- Answers `krb5_set_password_using_ccache`: its code and the protocol's `result_code`. -/
  setPassword : List Write → Principal → String → Int × Int
  /-- Answers `_adcli_kinit_computer_creds` for `kadmin/changepw`. -/
  kinitChangepw : List Write → Int
  /-- Answers `krb5_change_password`: its code and the protocol's `result_code`. -/
  changePassword : List Write → String → Int × Int
  /-- The realm's answer to an AS-REQ for a principal at a kvno, made with these keys. -/
  asReq : List Write → Principal → UInt32 → List (Int × List UInt8) → Bool
  /-- Answers `krb5_parse_name` (`none` when it fails). -/
  parseName : String → Option Principal
  /-- Answers `_adcli_calc_reset_password`. -/
  calcResetPassword : String → String
  /-- Answers `krb5_principal2salt`. -/
  principal2salt : Principal → String
  /-- Answers `_adcli_krb5_w2k3_salt`, given the computer name. -/
  w2k3Salt : Principal → Option String → String
  /-- Answers `krb5_c_string_to_key`: enctype, password, salt (`none` is the null salt). -/
  stringToKey : Int → String → Option String → Option (List UInt8)
  /-- Whether `krb5_kt_resolve` succeeds on this name. -/
  ktResolve : List KeytabEntry → String → Bool
  /-- Answers `krb5_kt_default`, with the name `krb5_kt_get_name` gives it. -/
  ktDefault : List KeytabEntry → Option String
  /-- Whether `krb5_kt_remove_entry` fails on this entry. -/
  ktRemoveFails : List KeytabEntry → KeytabEntry → Bool
  /-- Whether `krb5_kt_add_entry` fails on this entry. -/
  ktAddFails : List KeytabEntry → KeytabEntry → Bool
  /-- Whether `_adcli_ldap_have_mod` finds the mod's values among these. -/
  haveMod : LdapMod → List String → Bool
  /-- Answers `_adcli_krb5_parse_enctypes`. -/
  parseEnctypes : String → Option (List Int)
  /-- Answers `_adcli_krb5_format_enctypes`. -/
  formatEnctypes : List Int → Option String

/-- A domain `corp.example.com` whose every call succeeds: the host is
`host01.corp.example.com`, each OU has a well-known computers container, a computer
account exists once it has been added, and the realm accepts every key: the sample domain
of the examples. -/
def sampleEnv : Env where
  charSigned := true
  hostFqdn := some "host01.corp.example.com"
  domainRealm := "CORP.EXAMPLE.COM"
  namingContext := "DC=corp,DC=example,DC=com"
  computerLogin := false
  discover _ := .success
  connect _ := .success
  search log base _ attrs :=
    if attrs.contains "sAMAccountName" && !log.any (fun wr => match wr with
        | .ldapAdd dn _ => dn == base
        | _ => false) then ⟨ldapNoSuchObject, none⟩
    else ⟨ldapSuccess, some ⟨base, fun a =>
      if a == "wellKnownObjects" then
        some ["B:32:AA312825768811D1ADED00C04FD8D5CD:CN=Computers," ++ base]
      else if a == "msDS-KeyVersionNumber" then some ["2"]
      else none⟩⟩
  compare _ _ _ _ := ldapCompareTrue
  add _ _ _ := ldapSuccess
  modify _ _ _ := ldapSuccess
  setPassword _ _ _ := (0, 0)
  kinitChangepw _ := 0
  changePassword _ _ := (0, 0)
  asReq _ _ _ _ := true
  parseName s := some ⟨[s], ""⟩
  calcResetPassword s := s
  principal2salt p := p.realm
  w2k3Salt p _ := p.realm
  stringToKey _ _ _ := some []
  ktResolve _ _ := true
  ktDefault _ := some "FILE:/etc/krb5.keytab"
  ktRemoveFails _ _ := false
  ktAddFails _ _ := false
  haveMod m vals := m.values == vals
  parseEnctypes _ := none
  formatEnctypes _ := some "28"

/-! ## C strings and arrays -/

/-- What `%s` prints for a string argument: glibc prints `(null)` for a null pointer. -/
def cstr : Option String → String
  | some s => s
  | none => "(null)"

/-- The string `_adcli_str_up` leaves: `toupper` on each character, which in the C
locale changes only the ASCII letters, as `Char.toUpper` does. -/
def strUp (s : String) : String := ⟨s.data.map Char.toUpper⟩

/-- The C string in a buffer: its octets before the first NUL. -/
def cString (buf : List UInt8) : String :=
  ⟨(buf.takeWhile (· != 0)).map fun b => Char.ofNat b.toNat⟩

/-- Appends as `_adcli_strv_add` does: append to a string vector, making one from `NULL`. -/
def strvAdd (v : Option (List String)) (s : String) : Option (List String) :=
  some (v.getD [] ++ [s])

/-- The elements of a `NULL`-terminated array: those before its first `NULL`. -/
def nullTerminated {α : Type} : List (Option α) → List α
  | some a :: as => a :: nullTerminated as
  | _ => []

@[simp] theorem nullTerminated_nil {α : Type} : nullTerminated ([] : List (Option α)) = [] := rfl

@[simp] theorem nullTerminated_none {α : Type} (as : List (Option α)) :
    nullTerminated (none :: as) = [] := rfl

@[simp] theorem nullTerminated_some {α : Type} (a : α) (as : List (Option α)) :
    nullTerminated (some a :: as) = a :: nullTerminated as := rfl

theorem nullTerminated_map_append {α : Type} (xs : List α) (rest : List (Option α)) :
    nullTerminated (xs.map some ++ none :: rest) = xs := by
  induction xs with
  | nil => rfl
  | cons x xs ih => simp [ih]

/-! ## In-place compaction -/

/-- The in-place compaction loop both filters of `adenroll.c` are written as,
`for (i = 0, j = 0; ...; i++) if (keep (buf[i])) buf[j++] = buf[i];`, run `n` more steps
from read index `i` and write index `j`. -/
def compactLoop {α : Type} (keep : α → Bool) (dflt : α) : (n i j : Nat) → List α → List α × Nat
  | 0, _, j, buf => (buf, j)
  | n + 1, i, j, buf =>
    if keep (buf.getD i dflt) then compactLoop keep dflt n (i + 1) (j + 1) (buf.set j (buf.getD i dflt))
    else compactLoop keep dflt n (i + 1) j buf

/-- The buffer after `i` steps of `compactLoop`: the kept items among the first `i`,
then the original from the write index on. -/
def compacted {α : Type} (keep : α → Bool) (src : List α) (i : Nat) : List α :=
  (src.take i).filter keep ++ src.drop ((src.take i).filter keep).length

theorem length_filter_take_le {α : Type} (keep : α → Bool) (src : List α) (i : Nat) :
    ((src.take i).filter keep).length ≤ i :=
  (List.length_filter_le _ _).trans (by simp)

theorem filter_take_succ {α : Type} (keep : α → Bool) (src : List α) {i : Nat} (hi : i < src.length) :
    (src.take (i + 1)).filter keep = (src.take i).filter keep ++ [src[i]].filter keep := by
  rw [List.take_succ, List.getElem?_eq_getElem hi, List.filter_append]
  rfl

/-- The read index never falls behind the write index: what is read is the original. -/
theorem getD_compacted {α : Type} (keep : α → Bool) (dflt : α) (src : List α) {i : Nat}
    (hi : i < src.length) : (compacted keep src i).getD i dflt = src[i] := by
  have hle := length_filter_take_le keep src i
  simp only [compacted, List.getD_eq_getElem?_getD, List.getElem?_append_right hle,
    List.getElem?_drop]
  rw [Nat.add_sub_cancel' hle, List.getElem?_eq_getElem hi]
  rfl

theorem set_compacted {α : Type} (keep : α → Bool) (src : List α) {i : Nat} (hi : i < src.length)
    (hk : keep src[i] = true) :
    (compacted keep src i).set ((src.take i).filter keep).length src[i] =
      compacted keep src (i + 1) := by
  have hle := length_filter_take_le keep src i
  simp only [compacted, filter_take_succ keep src hi, List.filter_singleton, hk, cond_true,
    List.length_append, List.length_singleton]
  rw [List.set_append_right _ _ (le_refl _), Nat.sub_self,
    List.drop_eq_getElem_cons (hle.trans_lt hi), List.set_cons_zero, List.append_assoc]
  rfl

theorem compactLoop_compacted {α : Type} (keep : α → Bool) (dflt : α) (src : List α) :
    ∀ n i, i + n ≤ src.length →
      compactLoop keep dflt n i ((src.take i).filter keep).length (compacted keep src i) =
        (compacted keep src (i + n), ((src.take (i + n)).filter keep).length)
  | 0, i, _ => rfl
  | n + 1, i, h => by
    have hi : i < src.length := by omega
    have ih := compactLoop_compacted keep dflt src n (i + 1) (by omega)
    rw [show i + 1 + n = i + (n + 1) by omega] at ih
    rw [compactLoop, getD_compacted keep dflt src hi]
    by_cases hk : keep src[i] = true
    · rw [if_pos hk, set_compacted keep src hi hk]
      rwa [filter_take_succ keep src hi, List.filter_singleton, hk, cond_true,
        List.length_append, List.length_singleton] at ih
    · have hnil : [src[i]].filter keep = [] := by simp [hk]
      have hc : compacted keep src (i + 1) = compacted keep src i := by
        rw [compacted, compacted, filter_take_succ keep src hi, hnil, List.append_nil]
      rw [if_neg hk]
      rwa [hc, filter_take_succ keep src hi, hnil, List.append_nil] at ih

/-- A whole run of `compactLoop` over the first `n` items: they are compacted, in order, to
the front, the rest of the buffer is left as it was, and the write index counts them. -/
theorem compactLoop_eq {α : Type} (keep : α → Bool) (dflt : α) (src : List α) {n : Nat}
    (h : n ≤ src.length) :
    compactLoop keep dflt n 0 0 src =
      ((src.take n).filter keep ++ src.drop ((src.take n).filter keep).length,
        ((src.take n).filter keep).length) := by
  simpa [compacted] using compactLoop_compacted keep dflt src n 0 (by simpa using h)

end Adcli

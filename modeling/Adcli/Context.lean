/-
The enrollment context `struct _adcli_enroll`, its public setters, and
`enroll_clear_state`, which `adcli_enroll_join` runs first: it drops what an earlier run
left in the fields it knows to be derived, and keeps the rest.
-/
import Adcli.Basic

namespace Adcli

/-- The context `struct _adcli_enroll`, less its reference count and its connection (the
`Env`). A `NULL` pointer is `none`; `keytab` is the name the open keytab was resolved
from; `keytabPrincipals` is the `calloc`ed, `NULL`-terminated principal array. -/
structure Enroll where
  hostFqdn : Option String := none
  hostFqdnExplicit : Bool := false
  computerName : Option String := none
  computerNameExplicit : Bool := false
  computerSam : Option String := none
  computerPassword : Option String := none
  computerPasswordExplicit : Bool := false
  resetPassword : Bool := false
  computerPrincipal : Option Principal := none
  preferredOu : Option String := none
  preferredOuValidated : Bool := false
  computerContainer : Option String := none
  computerDn : Option String := none
  computerAttributes : Option SearchReply := none
  serviceNames : Option (List String) := none
  servicePrincipals : Option (List String) := none
  servicePrincipalsExplicit : Bool := false
  kvno : UInt32 := 0
  keytabName : Option String := none
  keytabNameIsKrb5 : Bool := false
  keytab : Option String := none
  keytabPrincipals : Option (List (Option Principal)) := none
  keytabEnctypes : Option (List Int) := none
  keytabEnctypesExplicit : Bool := false

/-- The context `adcli_enroll_new` makes: `calloc`ed, so every field `NULL` or `0`. -/
def adcliEnrollNew : Enroll := {}

/-! ## Setters -/

/-- The setter `adcli_enroll_set_host_fqdn`: the FQDN is explicit even when `NULL`. -/
def adcliEnrollSetHostFqdn (e : Enroll) (value : Option String) : Enroll :=
  { e with hostFqdn := value, hostFqdnExplicit := true }

/-- The setter `adcli_enroll_set_computer_name`. -/
def adcliEnrollSetComputerName (e : Enroll) (value : Option String) : Enroll :=
  { e with computerName := value, computerNameExplicit := value.isSome }

/-- The setter `adcli_enroll_set_preferred_ou`: a new OU is not yet validated. -/
def adcliEnrollSetPreferredOu (e : Enroll) (value : Option String) : Enroll :=
  { e with preferredOuValidated := false, preferredOu := value }

/-- The setter `adcli_enroll_set_computer_container`. -/
def adcliEnrollSetComputerContainer (e : Enroll) (value : Option String) : Enroll :=
  { e with computerContainer := value }

/-- The setter `adcli_enroll_set_computer_dn`. -/
def adcliEnrollSetComputerDn (e : Enroll) (value : Option String) : Enroll :=
  { e with computerDn := value }

/-- The setter `adcli_enroll_set_computer_password`. -/
def adcliEnrollSetComputerPassword (e : Enroll) (password : Option String) : Enroll :=
  { e with computerPassword := password, computerPasswordExplicit := password.isSome }

/-- The setter `adcli_enroll_reset_computer_password`: the next password is the reset one. -/
def adcliEnrollResetComputerPassword (e : Enroll) : Enroll :=
  { e with computerPassword := none, computerPasswordExplicit := false, resetPassword := true }

/-- The setter `adcli_enroll_set_service_names`. -/
def adcliEnrollSetServiceNames (e : Enroll) (value : Option (List String)) : Enroll :=
  { e with serviceNames := value }

/-- The setter `adcli_enroll_add_service_name`; `return_if_fail` refuses a `NULL` value. -/
def adcliEnrollAddServiceName (e : Enroll) : Option String → Enroll
  | some value => { e with serviceNames := strvAdd e.serviceNames value }
  | none => e

/-- The setter `adcli_enroll_set_service_principals`. -/
def adcliEnrollSetServicePrincipals (e : Enroll) (value : Option (List String)) : Enroll :=
  { e with servicePrincipals := value, servicePrincipalsExplicit := value.isSome }

/-- The setter `adcli_enroll_set_kvno`. -/
def adcliEnrollSetKvno (e : Enroll) (value : UInt32) : Enroll :=
  { e with kvno := value }

/-- The setter `adcli_enroll_set_keytab_name`: it also closes an open keytab. -/
def adcliEnrollSetKeytabName (e : Enroll) (value : Option String) : Enroll :=
  { e with keytabName := value, keytabNameIsKrb5 := false, keytab := none }

/-- The setter `adcli_enroll_set_keytab_enctypes`, given the enctypes before the `0` that
ends the caller's array. -/
def adcliEnrollSetKeytabEnctypes (e : Enroll) (value : Option (List Int)) : Enroll :=
  { e with keytabEnctypes := value, keytabEnctypesExplicit := value.isSome }

/-- The `default_enctypes` of `adcli_enroll_get_keytab_enctypes`. -/
def defaultEnctypes : List Int :=
  [enctypeAes256CtsHmacSha196, enctypeAes128CtsHmacSha196, enctypeDes3CbcSha1,
    enctypeArcfourHmac, enctypeDesCbcMd5, enctypeDesCbcCrc]

/-- The enctypes `adcli_enroll_get_keytab_enctypes` gives: the context's, or the defaults. -/
def adcliEnrollGetKeytabEnctypes (e : Enroll) : List Int :=
  e.keytabEnctypes.getD defaultEnctypes

/-! ## Clearing a run's state -/

/-- What `enroll_clear_state` leaves: it frees the keytab principals, closes the keytab, and drops the
SAM name, the principal, the DN, the kvno and the cached attributes, and the password and
the service principals unless they were set explicitly. -/
def enrollClearState (e : Enroll) : Enroll :=
  { e with
    keytabPrincipals := none
    keytab := none
    computerSam := none
    computerPrincipal := none
    computerPassword := if e.computerPasswordExplicit then e.computerPassword else none
    computerDn := none
    servicePrincipals := if e.servicePrincipalsExplicit then e.servicePrincipals else none
    kvno := 0
    computerAttributes := none }

end Adcli

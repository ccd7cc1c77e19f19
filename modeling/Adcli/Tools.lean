/-
The command-line tools of `entry.c`: `create-user`, `delete-user`, `passwd-user`,
`create-group`, `delete-group`, `add-member` and `remove-member`. Each reads its options
with `adcli_tool_getopt`, takes its own and hands the connection's to `parse_option`,
checks its operands, connects, and makes its call to the domain; `add-member` and
`remove-member` first look up every user.

`parse_option` keeps the password mode in `static` variables, so over the options of a
command line it is a small state machine: the first of `--no-password`,
`--prompt-password` and `--stdin-password` fixes the mode, the same one again is
accepted, any other is refused with a warning that names the one given before. Its
`default` case is `assert (0 && "not reached")`, which no tool reaches: every option of a
tool's table is one of its own cases or one of `parse_option`'s.

What the tools call outside `entry.c` (`adconn.c`, `adentry.c`, `adattrs.c`, `tools.c`)
is answered by a `ToolEnv`, as `Env` answers the enrollment engine; `EUSAGE`, defined in
`tools.h`, is one of its fields. As in the engine, allocation failures
(`adcli_entry_new_user` returning `NULL`) are not modelled.
-/
import Adcli.Basic

namespace Adcli

/-! ## Result codes, options and the connection -/

/-- The values of `adcli_result` (adutil.h). -/
def AdcliResult.code : AdcliResult → Int
  | .success => 0
  | .errUnexpected => -2
  | .errFail => -3
  | .errDirectory => -4
  | .errConfig => -5
  | .errCredentials => -6

@[simp] theorem AdcliResult.code_success : AdcliResult.success.code = 0 := rfl

@[simp] theorem AdcliResult.code_eq_zero {r : AdcliResult} : r.code = 0 ↔ r = .success := by
  cases r <;> decide

/-- The enum `Option` of entry.c, with `help` the code `'h'` of `--help`. -/
inductive Opt
  | domain | domainRealm | domainController | loginUser | loginCcache | domainOu
  | promptPassword | verbose | noPassword | stdinPassword | displayName | description
  | mail | unixHome | unixUid | unixGid | unixShell | nisDomain | useLdaps | help
  deriving DecidableEq, Repr

/-- What `adcli_tool_getopt` returns for one option of the command line: the option's code
with its `optarg`; `'?'` for an option the tool does not take, or a missing argument,
after `getopt_long`'s diagnostic; `':'` for a missing argument when the option string
starts with `':'`, which is the one case `getopt_long` returns it, and prints nothing. -/
inductive Getopt
  | opt (o : Opt) (optarg : Option String)
  | unknown
  | missing
  deriving DecidableEq, Repr

/-- Modelled from `getopt_long`: `adcli_tool_getopt` (tools.c) returns an option's code only
when the tool's table lists it, and `'?'` for any other option. -/
def adcliToolGetopt (options : List Opt) : Getopt → Getopt
  | .opt o v => if o ∈ options then .opt o v else .unknown
  | g => g

/-- The callbacks `adcli_conn_set_password_func` installs: `adcli_prompt_password_func`
and `adcli_read_password_func` (`none` is `NULL`). -/
inductive PasswordFunc
  | prompt
  | read
  deriving DecidableEq, Repr

/-- The settings of an `adcli_conn` that the tools make. -/
structure Conn where
  loginCcacheName : Option String
  loginUser : Option String
  domainName : Option String
  domainRealm : Option String
  domainController : Option String
  passwordFunc : Option PasswordFunc
  useLdaps : Bool
  /-- Whether `adcli_conn_set_allowed_login_types (conn, ADCLI_LOGIN_USER_ACCOUNT)` was made. -/
  userAccountLogin : Bool
  deriving DecidableEq, Repr

/-- The `static int`s of `parse_option`, which are `0` when the process starts. -/
structure PasswordFlags where
  noPassword : Bool := false
  promptPassword : Bool := false
  stdinPassword : Bool := false
  deriving DecidableEq, Repr

/-- A change `adcli_attrs_add`, `adcli_attrs_add1` or `adcli_attrs_delete1` records. -/
inductive AttrCall
  | add (name : String) (value : Option String)
  | add1 (name : String) (value : Option String)
  | delete1 (name : String) (value : Option String)
  deriving DecidableEq, Repr

/-- An entry `adcli_entry_new_user` or `adcli_entry_new_group` makes, with the OU
`adcli_entry_set_domain_ou` gives it. -/
structure EntryRef where
  group : Bool
  name : String
  domainOu : Option String
  deriving DecidableEq, Repr

/-- A call of a tool to the domain. -/
inductive ToolCall
  | connect (conn : Conn)
  | getNisDomain (entry : EntryRef)
  | create (entry : EntryRef) (attrs : List AttrCall)
  | delete (entry : EntryRef)
  | setPasswd (entry : EntryRef) (password : String)
  | load (entry : EntryRef)
  | modify (entry : EntryRef) (attrs : List AttrCall)
  deriving DecidableEq, Repr

/-- What a tool prints: a `warnx` line; the diagnostic `getopt_long` prints before it
returns `'?'`; or a usage table (`adcli_tool_usage`), the tool's own `usages` or, when
`common`, the `common_usages` of entry.c. -/
inductive Output
  | warn (text : String)
  | getoptError
  | usage (common : Bool)
  deriving DecidableEq, Repr

/-- What the tools call outside entry.c, as answers: every call to the domain answers a
result that may depend on the calls before it. -/
structure ToolEnv where
  /-- The exit code `EUSAGE` of tools.h. -/
  eusage : Int
  /-- Answers `adcli_conn_connect`, `adcli_get_nis_domain`, `adcli_entry_create`,
  `adcli_entry_delete`, `adcli_entry_set_passwd`, `adcli_entry_load` and
  `adcli_entry_modify`. -/
  answer : List ToolCall → ToolCall → AdcliResult
  /-- The attribute changes `adcli_get_nis_domain` leaves. -/
  nisDomainAttrs : EntryRef → List AttrCall → List AttrCall
  /-- Answers `adcli_conn_get_domain_name`. -/
  domainName : List ToolCall → Conn → Option String
  /-- Answers `adcli_get_last_error`. -/
  lastError : List ToolCall → Option String
  /-- Answers `adcli_entry_get_sam_name`. -/
  samName : EntryRef → Option String
  /-- Answers `adcli_entry_get_dn` once the entry is loaded. -/
  getDn : EntryRef → Option String
  /-- Answers `adcli_prompt_password_func (ADCLI_LOGIN_USER_ACCOUNT, name, 0, NULL)`. -/
  promptPassword : Option String → Option String

/-- A tool's state: the connection, the flags of `parse_option`, the calls made to the
domain (oldest first) and what has been printed. -/
structure ToolState where
  conn : Conn
  flags : PasswordFlags
  calls : List ToolCall
  out : List Output

namespace ToolState

/-- A `warnx` line printed. -/
def warn (st : ToolState) (text : String) : ToolState := { st with out := st.out ++ [.warn text] }

/-- The two `adcli_tool_usage` calls of `'h'`, `'?'` and `':'`: the tool's own usages,
then `common_usages`. -/
def usage (st : ToolState) : ToolState := { st with out := st.out ++ [.usage false, .usage true] }

/-- The diagnostic `getopt_long` prints before it returns `'?'`. -/
def getoptError (st : ToolState) : ToolState := { st with out := st.out ++ [.getoptError] }

/-- Call `c` made to the domain: its answer, and the call recorded. -/
def send (env : ToolEnv) (st : ToolState) (c : ToolCall) : AdcliResult × ToolState :=
  (env.answer st.calls c, { st with calls := st.calls ++ [c] })

@[simp] theorem warn_calls (st : ToolState) (t : String) : (st.warn t).calls = st.calls := rfl
@[simp] theorem warn_conn (st : ToolState) (t : String) : (st.warn t).conn = st.conn := rfl
@[simp] theorem warn_flags (st : ToolState) (t : String) : (st.warn t).flags = st.flags := rfl
@[simp] theorem usage_calls (st : ToolState) : st.usage.calls = st.calls := rfl
@[simp] theorem usage_conn (st : ToolState) : st.usage.conn = st.conn := rfl
@[simp] theorem usage_flags (st : ToolState) : st.usage.flags = st.flags := rfl
@[simp] theorem getoptError_calls (st : ToolState) : st.getoptError.calls = st.calls := rfl
@[simp] theorem getoptError_conn (st : ToolState) : st.getoptError.conn = st.conn := rfl
@[simp] theorem getoptError_flags (st : ToolState) : st.getoptError.flags = st.flags := rfl
@[simp] theorem send_calls (env : ToolEnv) (st : ToolState) (c : ToolCall) :
    (st.send env c).2.calls = st.calls ++ [c] := rfl
@[simp] theorem send_conn (env : ToolEnv) (st : ToolState) (c : ToolCall) :
    (st.send env c).2.conn = st.conn := rfl
@[simp] theorem send_flags (env : ToolEnv) (st : ToolState) (c : ToolCall) :
    (st.send env c).2.flags = st.flags := rfl

end ToolState

/-- A domain `corp.example.com` in which every call succeeds and every user is found under
`CN=Users`, with `EUSAGE` `2`: the sample domain of the tools' examples. -/
def sampleToolEnv : ToolEnv where
  eusage := 2
  answer _ _ := .success
  nisDomainAttrs _ attrs := attrs ++ [.add "msSFU30NisDomain" (some "corp")]
  domainName _ _ := some "corp.example.com"
  lastError _ := none
  samName e := some e.name
  getDn e := some ("CN=" ++ e.name ++ ",CN=Users,DC=corp,DC=example,DC=com")
  promptPassword _ := some "secret"

/-- A tool's state when the process starts: nothing set on the connection, the flags of
`parse_option` at `0`, nothing sent or printed. -/
def toolStart : ToolState where
  conn := ⟨none, none, none, none, none, none, false, false⟩
  flags := {}
  calls := []
  out := []

/-! ## parse_option -/

section ParseOption

variable (env : ToolEnv)

/-- A password option of `parse_option`, named `name`: refused, naming the option of the
flag that is set, when flag `first` or flag `second` is set; otherwise the connection's
password callback becomes `func` and `set` sets the option's own flag. -/
def passwordOption (name : String) (first second : Bool × String) (func : Option PasswordFunc)
    (set : PasswordFlags → PasswordFlags) (st : ToolState) : Int × ToolState :=
  if first.1 || second.1 then
    (env.eusage, st.warn ("cannot use " ++ name ++ " argument with " ++ if first.1 then first.2 else second.2))
  else (AdcliResult.success.code, { st with conn := { st.conn with passwordFunc := func }, flags := set st.flags })

/-- The function `parse_option`; `none` is `assert (0 && "not reached")` failing. -/
def parseOption (opt : Opt) (optarg : Option String) (st : ToolState) : Option (Int × ToolState) :=
  let f := st.flags
  match opt with
  | .loginCcache => some (AdcliResult.success.code, { st with conn := { st.conn with loginCcacheName := optarg } })
  | .loginUser => some (AdcliResult.success.code, { st with conn := { st.conn with loginUser := optarg } })
  | .domain => some (AdcliResult.success.code, { st with conn := { st.conn with domainName := optarg } })
  | .domainRealm => some (AdcliResult.success.code, { st with conn := { st.conn with domainRealm := optarg } })
  | .domainController =>
    some (AdcliResult.success.code, { st with conn := { st.conn with domainController := optarg } })
  | .noPassword => some (passwordOption env "--no-password" (f.stdinPassword, "--stdin-password")
      (f.promptPassword, "--prompt-password") none (fun f => { f with noPassword := true }) st)
  | .promptPassword => some (passwordOption env "--prompt-password" (f.stdinPassword, "--stdin-password")
      (f.noPassword, "--no-password") (some .prompt) (fun f => { f with promptPassword := true }) st)
  | .stdinPassword => some (passwordOption env "--stdin-password" (f.promptPassword, "--prompt-password")
      (f.noPassword, "--no-password") (some .read) (fun f => { f with stdinPassword := true }) st)
  | .useLdaps => some (AdcliResult.success.code, { st with conn := { st.conn with useLdaps := true } })
  | .verbose => some (AdcliResult.success.code, st)
  | _ => none

/-- The options `parse_option` has a case for. -/
def parsedOptions : List Opt :=
  [.loginCcache, .loginUser, .domain, .domainRealm, .domainController, .noPassword, .promptPassword,
    .stdinPassword, .useLdaps, .verbose]

theorem parseOption_isSome {o : Opt} (v : Option String) (st : ToolState) :
    (parseOption env o v st).isSome ↔ o ∈ parsedOptions := by
  cases o <;> first | exact iff_of_true rfl (by decide) | exact iff_of_false Bool.false_ne_true (by decide)

end ParseOption

/-! ## The password mode

What the flags of `parse_option` are for, stated once: the first password option fixes
the mode, the same option again keeps it, any other is refused. `parseOption_refines`
shows that `parse_option` is this machine on its flags and the connection's callback. -/

/-- The password options of `parse_option`. -/
inductive PasswordOpt
  | noPassword
  | promptPassword
  | stdinPassword
  deriving DecidableEq, Repr

namespace PasswordOpt

/-- The password option that option `o` is, if any. -/
def ofOpt : Opt → Option PasswordOpt
  | .noPassword => some .noPassword
  | .promptPassword => some .promptPassword
  | .stdinPassword => some .stdinPassword
  | _ => none

/-- The callback the option installs. -/
def func : PasswordOpt → Option PasswordFunc
  | .noPassword => none
  | .promptPassword => some .prompt
  | .stdinPassword => some .read

/-- The option as the warnings name it. -/
def name : PasswordOpt → String
  | .noPassword => "--no-password"
  | .promptPassword => "--prompt-password"
  | .stdinPassword => "--stdin-password"

/-- The flags of a mode: only the flag of the option that fixed it. -/
def flags : Option PasswordOpt → PasswordFlags
  | none => {}
  | some .noPassword => { noPassword := true }
  | some .promptPassword => { promptPassword := true }
  | some .stdinPassword => { stdinPassword := true }

end PasswordOpt

/-- The mode after option `o`: a password option fixes the mode when none is fixed, keeps
it when it fixed it, and is refused (`none`) otherwise; any other option leaves it. -/
def modeAfter (mode : Option PasswordOpt) (o : Opt) : Option (Option PasswordOpt) :=
  match PasswordOpt.ofOpt o, mode with
  | none, _ => some mode
  | some p, none => some (some p)
  | some p, some q => if p = q then some (some q) else none

/-- State `st` is in mode `mode`: its flags are the mode's, and its connection has the
callback of the option that fixed the mode. -/
def ToolState.HasMode (st : ToolState) (mode : Option PasswordOpt) : Prop :=
  st.flags = PasswordOpt.flags mode ∧ ∀ p, mode = some p → st.conn.passwordFunc = p.func

section Mode

variable (env : ToolEnv) {o : Opt} {v : Option String} {st st' : ToolState} {res : Int}

/-- An option that is not a password option leaves the flags, the callback, the calls and
the output. -/
theorem parseOption_other (ho : PasswordOpt.ofOpt o = none) (h : parseOption env o v st = some (res, st')) :
    res = AdcliResult.success.code ∧ st'.flags = st.flags ∧ st'.conn.passwordFunc = st.conn.passwordFunc ∧
      st'.calls = st.calls ∧ st'.out = st.out := by
  cases o <;> first | (cases ho; done) | (cases h; first | done | exact ⟨rfl, rfl, rfl, rfl, rfl⟩)

/-- A password option `p` in mode `mode`: refused, naming the mode's option, when another
option fixed the mode; otherwise accepted, with `p`'s flag and callback. -/
theorem parseOption_password {p : PasswordOpt} {mode : Option PasswordOpt}
    (ho : PasswordOpt.ofOpt o = some p) (hf : st.flags = PasswordOpt.flags mode) :
    parseOption env o v st = some (match mode with
      | some q => if p = q then (AdcliResult.success.code,
            { st with conn := { st.conn with passwordFunc := p.func }, flags := PasswordOpt.flags (some p) })
          else (env.eusage, st.warn ("cannot use " ++ p.name ++ " argument with " ++ q.name))
      | none => (AdcliResult.success.code,
          { st with conn := { st.conn with passwordFunc := p.func }, flags := PasswordOpt.flags (some p) })) := by
  cases o <;> simp only [PasswordOpt.ofOpt, reduceCtorEq, Option.some.injEq] at ho <;> subst ho <;>
    rcases mode with _ | ⟨_ | _ | _⟩ <;>
    simp [parseOption, passwordOption, hf, PasswordOpt.flags, PasswordOpt.func, PasswordOpt.name]

/-- **`parse_option` is the password-mode machine.** In a state whose flags and callback
are those of mode `mode`, `parse_option` either accepts the option, with result
`ADCLI_SUCCESS`, in the state of the mode the machine moves to and with nothing sent or
printed; or the option is a password option other than the one that fixed the mode, and
it is refused with `EUSAGE` and the warning that names both, the state otherwise
unchanged. -/
theorem parseOption_refines {mode : Option PasswordOpt} (hst : st.HasMode mode)
    (h : parseOption env o v st = some (res, st')) :
    (∃ mode', modeAfter mode o = some mode' ∧ res = AdcliResult.success.code ∧ st'.HasMode mode' ∧
      st'.calls = st.calls ∧ st'.out = st.out) ∨
    (∃ p q, PasswordOpt.ofOpt o = some p ∧ mode = some q ∧ p ≠ q ∧ res = env.eusage ∧
      st' = st.warn ("cannot use " ++ p.name ++ " argument with " ++ q.name)) := by
  rcases hp : PasswordOpt.ofOpt o with _ | p
  · obtain ⟨hr, hf, hfunc, hc, hout⟩ := parseOption_other env hp h
    exact .inl ⟨mode, by simp [modeAfter, hp], hr, ⟨hf.trans hst.1, fun p hp => hfunc.trans (hst.2 p hp)⟩, hc, hout⟩
  rw [parseOption_password env hp hst.1, Option.some.injEq] at h
  rcases mode with _ | q
  · obtain ⟨rfl, rfl⟩ := Prod.mk.inj h
    exact .inl ⟨some p, by simp [modeAfter, hp], rfl, ⟨rfl, by simp⟩, rfl, rfl⟩
  by_cases hpq : p = q
  · subst hpq
    simp only [if_true] at h
    obtain ⟨rfl, rfl⟩ := Prod.mk.inj h
    exact .inl ⟨some p, by simp [modeAfter, hp], rfl, ⟨rfl, by simp⟩, rfl, rfl⟩
  · simp only [hpq, if_false] at h
    obtain ⟨rfl, rfl⟩ := Prod.mk.inj h
    exact .inr ⟨p, q, rfl, rfl, hpq, rfl, rfl⟩

end Mode

/-! ## The option loop -/

section Loop

variable (env : ToolEnv) {σ : Type}

/-- The option loop of a tool, over what `adcli_tool_getopt` returns: `'h'` prints the
tool's usages and the common ones and ends the tool with `0`; `'?'`, after
`getopt_long`'s diagnostic, and `':'` print them too and end it with `2`; an option that the tool's
own cases `own` take changes its locals; any other goes to `parse_option`, and a failure
ends the tool with its result. -/
def optionLoop (options : List Opt) (own : Opt → Option String → σ → Option σ) :
    List Getopt → σ → ToolState → Option (Except Int σ × ToolState)
  | [], l, st => some (.ok l, st)
  | g :: gs, l, st =>
    match adcliToolGetopt options g with
    | .opt .help _ => some (.error 0, st.usage)
    | .unknown => some (.error 2, st.getoptError.usage)
    | .missing => some (.error 2, st.usage)
    | .opt o v =>
      match own o v l with
      | some l => optionLoop options own gs l st
      | none => (parseOption env o v st).bind fun (res, st) =>
        if res ≠ AdcliResult.success.code then some (.error res, st)
        else optionLoop options own gs l st

/-- Every tool of entry.c: its option loop over the options `args`, then, unless the loop
ended the tool, its `body` on the locals the loop left and the operands. -/
def runTool (options : List Opt) (own : Opt → Option String → σ → Option σ) (init : σ)
    (body : σ → List String → ToolState → Int × ToolState) (args : List Getopt)
    (operands : List String) (st : ToolState) : Option (Int × ToolState) :=
  (optionLoop env options own args init st).map fun (r, st) =>
    match r with
    | .error code => (code, st)
    | .ok l => body l operands st

end Loop

/-! ## What the option loop does -/

theorem adcliToolGetopt_opt {options : List Opt} {g : Getopt} {o : Opt} {v : Option String}
    (h : adcliToolGetopt options g = .opt o v) : g = .opt o v ∧ o ∈ options := by
  cases g with
  | opt o' v' =>
    simp only [adcliToolGetopt] at h
    split_ifs at h with ho
    · cases h; exact ⟨rfl, ho⟩
  | unknown => cases h
  | missing => cases h

/-- `parse_option` sends nothing; it accepts an option silently, or refuses it with `EUSAGE`
and one warning. -/
theorem parseOption_effect (env : ToolEnv) {o : Opt} {v : Option String} {st st' : ToolState} {res : Int}
    (h : parseOption env o v st = some (res, st')) : st'.calls = st.calls ∧
      ((res = AdcliResult.success.code ∧ st'.out = st.out) ∨ (res = env.eusage ∧ ∃ t, st'.out = st.out ++ [.warn t])) := by
  cases o <;> first
    | (cases h; first | done | exact ⟨rfl, .inl ⟨rfl, rfl⟩⟩)
    | (simp only [parseOption, passwordOption, Option.some.injEq] at h
       split_ifs at h <;> cases h <;> first | exact ⟨rfl, .inl ⟨rfl, rfl⟩⟩ | exact ⟨rfl, .inr ⟨rfl, _, rfl⟩⟩)

/-- The password mode after the options `args`, as the mode machine reads them: `none` when
it refuses one, or meets something that is not an option. -/
def modeRun (mode : Option PasswordOpt) : List Getopt → Option (Option PasswordOpt)
  | [] => some mode
  | .opt o _ :: gs => (modeAfter mode o).bind fun m => modeRun m gs
  | _ :: _ => none

/-- The locals that the tool's own cases `own` leave after the options `args`. -/
def ownFold {σ : Type} (own : Opt → Option String → σ → Option σ) : List Getopt → σ → σ
  | [], l => l
  | .opt o v :: gs, l => ownFold own gs ((own o v l).getD l)
  | _ :: gs, l => ownFold own gs l

section LoopFacts

variable (env : ToolEnv) {σ : Type} {options : List Opt} {own : Opt → Option String → σ → Option σ}

/-- What a tool prints when its option loop ends it on `'h'`, with `0`, or on `'?'` or `':'`,
with `2`: the two tables of `adcli_tool_usage`, after `getopt_long`'s diagnostic on `'?'`. -/
def UsageExit (code : Int) (out : List Output) : Prop :=
  (code = 0 ∧ out = [.usage false, .usage true]) ∨ (code = 2 ∧ out = [.getoptError, .usage false, .usage true]) ∨
    (code = 2 ∧ out = [.usage false, .usage true])

/-- What one option does to the loop: `'h'`, `'?'` and `':'` end it with the usages printed;
an option of the table is taken by the tool's own cases, or accepted by `parse_option` and
the loop goes on, or refused by it and the loop ends with its result. -/
theorem optionLoop_cons {g : Getopt} {gs : List Getopt} {l : σ} {st st' : ToolState} {r : Except Int σ}
    (h : optionLoop env options own (g :: gs) l st = some (r, st')) :
    (∃ code out, r = .error code ∧ st' = { st with out := st.out ++ out } ∧ UsageExit code out) ∨
    ∃ o v, g = .opt o v ∧ o ∈ options ∧ o ≠ .help ∧
      ((∃ l', own o v l = some l' ∧ optionLoop env options own gs l' st = some (r, st')) ∨
       (own o v l = none ∧ ∃ res st₁, parseOption env o v st = some (res, st₁) ∧
         ((res ≠ AdcliResult.success.code ∧ r = .error res ∧ st' = st₁) ∨
          (res = AdcliResult.success.code ∧ optionLoop env options own gs l st₁ = some (r, st'))))) := by
  rw [optionLoop] at h
  split at h
  · cases h; exact .inl ⟨0, _, rfl, rfl, .inl ⟨rfl, rfl⟩⟩
  · cases h
    exact .inl ⟨2, _, rfl, by simp [ToolState.usage, ToolState.getoptError], .inr (.inl ⟨rfl, rfl⟩)⟩
  · cases h; exact .inl ⟨2, _, rfl, rfl, .inr (.inr ⟨rfl, rfl⟩)⟩
  · rename_i o v hne hg
    obtain ⟨rfl, ho⟩ := adcliToolGetopt_opt hg
    refine .inr ⟨o, v, rfl, ho, hne, ?_⟩
    split at h
    · exact .inl ⟨_, ‹_›, h⟩
    · obtain ⟨⟨res, st₁⟩, hp, h⟩ := Option.bind_eq_some.mp h
      refine .inr ⟨‹_›, res, st₁, hp, ?_⟩
      dsimp only at h
      split_ifs at h with hres
      · cases h; exact .inl ⟨hres, rfl, rfl⟩
      · exact .inr ⟨not_not.mp hres, h⟩

/-- The loop never fails `parse_option`'s assert when every option of the table that the
tool's own cases leave is one `parse_option` has a case for. -/
theorem optionLoop_isSome (hown : ∀ o ∈ options, o ≠ .help → ∀ v l, own o v l = none → o ∈ parsedOptions) :
    ∀ (args : List Getopt) (l : σ) (st : ToolState), (optionLoop env options own args l st).isSome
  | [], _, _ => rfl
  | g :: gs, l, st => by
    rw [optionLoop]
    split
    · rfl
    · rfl
    · rfl
    · rename_i o v hne hg
      obtain ⟨rfl, ho⟩ := adcliToolGetopt_opt hg
      split
      · exact optionLoop_isSome hown gs _ st
      · rename_i hnone
        obtain ⟨⟨res, st₁⟩, hp⟩ :=
          Option.isSome_iff_exists.mp ((parseOption_isSome env v st).mpr (hown o ho hne v l hnone))
        rw [hp, Option.some_bind]
        dsimp only
        split_ifs
        · rfl
        · exact optionLoop_isSome hown gs l st₁

/-- The option loop makes no call to the domain, and a loop that reads every option leaves
the locals its own cases make of them. -/
theorem optionLoop_calls : ∀ {args : List Getopt} {l : σ} {st st' : ToolState} {r : Except Int σ},
    optionLoop env options own args l st = some (r, st') →
      st'.calls = st.calls ∧ ∀ l', r = .ok l' → l' = ownFold own args l
  | [], _, _, _, _, h => by cases h; exact ⟨rfl, fun _ h => (Except.ok.inj h).symm⟩
  | g :: gs, l, st, st', r, h => by
    rcases optionLoop_cons env h with ⟨code, out, rfl, rfl, -⟩ | ⟨o, v, rfl, -, -, ⟨l', hl, h⟩ | ⟨hl, res, st₁, hp, h⟩⟩
    · exact ⟨rfl, fun _ he => by cases he⟩
    · rw [ownFold, hl, Option.getD_some]; exact optionLoop_calls h
    · rw [ownFold, hl, Option.getD_none]
      rcases h with ⟨-, rfl, rfl⟩ | ⟨-, h⟩
      · exact ⟨(parseOption_effect env hp).1, fun _ he => by cases he⟩
      · exact (parseOption_effect env hp).1 ▸ optionLoop_calls h

/-- **The option loop runs the password-mode machine.** When `EUSAGE` is not
`ADCLI_SUCCESS` and the tool's own cases take no password option, a loop that starts in
mode `mode` ends in a state of some mode; and when it read every option, the machine
accepts the options and that mode is the one it ends in: the first password option
given, or `mode` when there was none. -/
theorem optionLoop_refines (heu : env.eusage ≠ AdcliResult.success.code)
    (hown : ∀ o v l, PasswordOpt.ofOpt o ≠ none → own o v l = none) :
    ∀ {args : List Getopt} {l : σ} {st st' : ToolState} {r : Except Int σ} {mode : Option PasswordOpt},
    st.HasMode mode → optionLoop env options own args l st = some (r, st') →
      ∃ mode', st'.HasMode mode' ∧ ∀ l', r = .ok l' → modeRun mode args = some mode'
  | [], _, _, _, _, mode, hst, h => by cases h; exact ⟨mode, hst, fun _ _ => rfl⟩
  | g :: gs, l, st, st', r, mode, hst, h => by
    rcases optionLoop_cons env h with ⟨code, out, rfl, rfl, -⟩ | ⟨o, v, rfl, -, -, ⟨l', hl, h⟩ | ⟨-, res, st₁, hp, h⟩⟩
    · exact ⟨mode, hst, fun _ he => by cases he⟩
    · have hmode : modeAfter mode o = some mode := by
        rcases ho : PasswordOpt.ofOpt o with _ | p
        · simp [modeAfter, ho]
        · exact absurd hl (by rw [hown o v l (by simp [ho])]; simp)
      obtain ⟨mode', hst', hrun⟩ := optionLoop_refines heu hown hst h
      exact ⟨mode', hst', fun l' he => by rw [modeRun, hmode, Option.some_bind]; exact hrun l' he⟩
    · rcases parseOption_refines env hst hp with ⟨mode₁, hm, rfl, hst₁, -⟩ | ⟨p, q, -, -, -, rfl, rfl⟩
      · rcases h with ⟨hne, -⟩ | ⟨-, h⟩
        · exact absurd rfl hne
        obtain ⟨mode', hst', hrun⟩ := optionLoop_refines heu hown hst₁ h
        exact ⟨mode', hst', fun l' he => by rw [modeRun, hm, Option.some_bind]; exact hrun l' he⟩
      · rcases h with ⟨-, rfl, rfl⟩ | ⟨he, -⟩
        · exact ⟨mode, ⟨hst.1, hst.2⟩, fun _ he => by cases he⟩
        · exact absurd he heu

/-- `--prompt-password`, `--domain`, then `--prompt-password` again: the loop reads them
all, in the mode of `--prompt-password`. -/
theorem optionLoop_refines_prompt :
    sampleToolEnv.eusage ≠ AdcliResult.success.code ∧ toolStart.HasMode none ∧
    ∃ r st', optionLoop sampleToolEnv [.domain, .promptPassword] (fun _ _ (_ : Unit) => none)
        [.opt .promptPassword none, .opt .domain (some "corp.example.com"), .opt .promptPassword none] ()
        toolStart = some (r, st') ∧
      ∃ mode', st'.HasMode mode' ∧ ∀ l', r = .ok l' → modeRun none
        [.opt .promptPassword none, .opt .domain (some "corp.example.com"), .opt .promptPassword none] = some mode' :=
  ⟨by decide, ⟨rfl, fun _ h => nomatch h⟩, _, _, rfl,
    @optionLoop_refines sampleToolEnv Unit [.domain, .promptPassword] (fun _ _ _ => none) (by decide)
      (fun _ _ _ _ => rfl) _ () toolStart _ _ none ⟨rfl, fun _ h => nomatch h⟩ rfl⟩

end LoopFacts

/-! ## Calls that succeeded -/

section Succeed

variable (env : ToolEnv)

/-- Every call of `new`, made after the calls `hist`, was answered `ADCLI_SUCCESS`. -/
def AllSucceed : List ToolCall → List ToolCall → Prop
  | _, [] => True
  | hist, c :: cs => env.answer hist c = .success ∧ AllSucceed (hist ++ [c]) cs

instance AllSucceed.decidable : ∀ hist new : List ToolCall, Decidable (AllSucceed env hist new)
  | _, [] => isTrue trivial
  | hist, c :: cs =>
    haveI := AllSucceed.decidable (hist ++ [c]) cs
    inferInstanceAs (Decidable (_ ∧ _))

theorem allSucceed_append : ∀ hist a b : List ToolCall,
    AllSucceed env hist (a ++ b) ↔ AllSucceed env hist a ∧ AllSucceed env (hist ++ a) b
  | hist, [], b => by simp [AllSucceed]
  | hist, c :: a, b => by
    rw [List.cons_append, AllSucceed, AllSucceed, allSucceed_append (hist ++ [c]) a b, List.append_assoc,
      List.singleton_append, and_assoc]

@[simp] theorem allSucceed_singleton (hist : List ToolCall) (c : ToolCall) :
    AllSucceed env hist [c] ↔ env.answer hist c = .success := by
  simp [AllSucceed]

/-- From `st` to `st'` the tool printed nothing, and every call it sent succeeded. -/
def Succeeded (st st' : ToolState) : Prop :=
  st'.out = st.out ∧ ∃ new, st'.calls = st.calls ++ new ∧ AllSucceed env st.calls new

theorem Succeeded.refl (st : ToolState) : Succeeded env st st := ⟨rfl, [], by simp, trivial⟩

theorem Succeeded.trans {st₁ st₂ st₃ : ToolState} (h₁ : Succeeded env st₁ st₂) (h₂ : Succeeded env st₂ st₃) :
    Succeeded env st₁ st₃ := by
  obtain ⟨ho₁, new₁, hc₁, ha₁⟩ := h₁
  obtain ⟨ho₂, new₂, hc₂, ha₂⟩ := h₂
  refine ⟨ho₂.trans ho₁, new₁ ++ new₂, by rw [hc₂, hc₁, List.append_assoc], ?_⟩
  rw [allSucceed_append]
  exact ⟨ha₁, hc₁ ▸ ha₂⟩

theorem Succeeded.calls_length {st st' : ToolState} (h : Succeeded env st st') :
    st.calls.length ≤ st'.calls.length := by
  obtain ⟨-, new, hc, -⟩ := h
  simp [hc]

end Succeed

/-! ## The steps of the tools -/

section Steps

variable (env : ToolEnv)

/-- A call `c` whose failure ends the tool: a failure is warned with `text` of the state
after the call and ends the tool with the negated result; a success goes on with `k` of
that state. -/
def sendStep {α : Type} (c : ToolCall) (text : ToolState → String) (k : ToolState → α) (st : ToolState) :
    Except (Int × ToolState) α :=
  let (res, st) := st.send env c
  if res ≠ .success then .error (-res.code, st.warn (text st)) else .ok (k st)

/-- `adcli_conn_set_allowed_login_types (conn, ADCLI_LOGIN_USER_ACCOUNT)` and
`adcli_conn_connect`, as every tool makes them. A failure is warned with `text` of the
domain name and the last error, and ends the tool with the negated result. -/
def connectTool (text : String → String → String) (st : ToolState) : Except (Int × ToolState) ToolState :=
  let st := { st with conn := { st.conn with userAccountLogin := true } }
  sendStep env (.connect st.conn)
    (fun st => text (cstr (env.domainName st.calls st.conn)) (cstr (env.lastError st.calls))) id st

/-- The connect step of a tool, and `k` after it. -/
def connectThen (text : String → String → String) (k : ToolState → Int × ToolState) (st : ToolState) :
    Int × ToolState :=
  match connectTool env text st with
  | .error r => r
  | .ok st => k st

/-- The warning of every tool whose call on entry `entry` failed: `"%s %s in domain %s
failed: %s"` of `what`, the entry's SAM name, the domain name and the last error. -/
def failText (what : String) (entry : EntryRef) (st : ToolState) : String :=
  what ++ " " ++ cstr (env.samName entry) ++ " in domain " ++ cstr (env.domainName st.calls st.conn) ++
    " failed: " ++ cstr (env.lastError st.calls)

/-- A tool's last call `c`: a failure is warned with `failText what` and ends the tool with
the negated result, a success with `0`. -/
def finishTool (c : ToolCall) (what : String) (entry : EntryRef) (st : ToolState) : Int × ToolState :=
  let (res, st) := st.send env c
  if res ≠ .success then (-res.code, st.warn (failText env what entry st)) else (0, st)

/-- The warning of a failed `adcli_conn_connect` in every tool but `create-group`. -/
def connectText (domain err : String) : String := "couldn't connect to " ++ domain ++ " domain: " ++ err

end Steps

/-! ## The tools -/

section Tools

variable (env : ToolEnv)

/-- The option table of `delete-user`, `passwd-user`, `delete-group`, `add-member` and
`remove-member`, which have no options of their own. -/
def connectionOptions : List Opt :=
  [.domain, .domainRealm, .domainController, .useLdaps, .loginUser, .loginCcache, .noPassword,
    .stdinPassword, .promptPassword, .verbose, .help]

/-- The option table of `adcli_tool_user_create`. -/
def userCreateOptions : List Opt :=
  [.displayName, .mail, .unixHome, .unixUid, .unixGid, .unixShell, .nisDomain, .domainOu, .domain,
    .domainRealm, .domainController, .useLdaps, .loginUser, .loginCcache, .noPassword, .stdinPassword,
    .promptPassword, .verbose, .help]

/-- The option table of `adcli_tool_group_create`. -/
def groupCreateOptions : List Opt :=
  [.description, .domain, .domainRealm, .domainController, .useLdaps, .domainOu, .loginUser, .loginCcache,
    .noPassword, .stdinPassword, .promptPassword, .verbose, .help]

/-- The locals of `adcli_tool_user_create` that its options set. -/
structure UserCreateLocals where
  attrs : List AttrCall := []
  ou : Option String := none
  hasUnixAttr : Bool := false
  hasNisDomain : Bool := false

/-- The cases of `adcli_tool_user_create`'s own options. -/
def userCreateOption : Opt → Option String → UserCreateLocals → Option UserCreateLocals
  | .displayName, v, l => some { l with attrs := l.attrs ++ [.add "displayName" v] }
  | .mail, v, l => some { l with attrs := l.attrs ++ [.add1 "mail" v] }
  | .unixHome, v, l => some { l with attrs := l.attrs ++ [.add "unixHomeDirectory" v], hasUnixAttr := true }
  | .unixUid, v, l => some { l with attrs := l.attrs ++ [.add "uidNumber" v], hasUnixAttr := true }
  | .unixGid, v, l => some { l with attrs := l.attrs ++ [.add "gidNumber" v], hasUnixAttr := true }
  | .unixShell, v, l => some { l with attrs := l.attrs ++ [.add "loginShell" v], hasUnixAttr := true }
  | .nisDomain, v, l => some { l with attrs := l.attrs ++ [.add "msSFU30NisDomain" v], hasNisDomain := true }
  | .domainOu, v, l => some { l with ou := v }
  | _, _, _ => none

/-- The NIS domain step of `adcli_tool_user_create`: `adcli_get_nis_domain` adds its
attributes, and its failure ends the tool. -/
def getNisDomainStep (entry : EntryRef) (attrs : List AttrCall) (st : ToolState) :
    Except (Int × ToolState) (List AttrCall × ToolState) :=
  sendStep env (.getNisDomain entry) (fun _ => "couldn't get NIS domain")
    (fun st => (env.nisDomainAttrs entry attrs, st)) st

/-- The function `adcli_tool_user_create`. -/
def adcliToolUserCreate (args : List Getopt) (operands : List String) (st : ToolState) :
    Option (Int × ToolState) :=
  runTool env userCreateOptions userCreateOption {} (fun l operands st =>
    match operands with
    | [name] =>
      let entry : EntryRef := ⟨false, name, l.ou⟩
      connectThen env connectText (fun st =>
        match (if l.hasUnixAttr && !l.hasNisDomain then getNisDomainStep env entry l.attrs st
          else .ok (l.attrs, st)) with
        | .error r => r
        | .ok (attrs, st) => finishTool env (.create entry attrs) "creating user" entry st) st
    | _ => (2, st.warn "specify one user name to create")) args operands st

/-- `adcli_tool_user_delete` and `adcli_tool_group_delete`: the entry is a group when
`group`, `operandText` asks for the operand, `what` begins the failure warning. -/
def deleteTool (group : Bool) (operandText what : String) (args : List Getopt) (operands : List String)
    (st : ToolState) : Option (Int × ToolState) :=
  runTool env connectionOptions (fun _ _ (_ : Unit) => none) () (fun _ operands st =>
    match operands with
    | [name] =>
      let entry : EntryRef := ⟨group, name, none⟩
      connectThen env connectText (finishTool env (.delete entry) what entry) st
    | _ => (2, st.warn operandText)) args operands st

/-- The function `adcli_tool_user_delete`. -/
def adcliToolUserDelete : List Getopt → List String → ToolState → Option (Int × ToolState) :=
  deleteTool env false "specify one user name to delete" "deleting user"

/-- The function `adcli_tool_group_delete`. -/
def adcliToolGroupDelete : List Getopt → List String → ToolState → Option (Int × ToolState) :=
  deleteTool env true "specify one group name to delete" "deleting group"

/-- The function `adcli_tool_user_passwd`: the new password is prompted for once
connected, and an empty one is refused. -/
def adcliToolUserPasswd (args : List Getopt) (operands : List String) (st : ToolState) :
    Option (Int × ToolState) :=
  runTool env connectionOptions (fun _ _ (_ : Unit) => none) () (fun _ operands st =>
    match operands with
    | [name] =>
      let entry : EntryRef := ⟨false, name, none⟩
      connectThen env connectText (fun st =>
        match env.promptPassword (env.samName entry) with
        | none | some "" => (2, st.warn "missing password")
        | some pwd => finishTool env (.setPasswd entry pwd) "(re)setting password for user" entry st) st
    | _ => (2, st.warn "specify one user name to (re)set password")) args operands st

/-- The locals of `adcli_tool_group_create` that its options set. -/
structure GroupCreateLocals where
  attrs : List AttrCall := []
  ou : Option String := none

/-- The cases of `adcli_tool_group_create`'s own options. -/
def groupCreateOption : Opt → Option String → GroupCreateLocals → Option GroupCreateLocals
  | .description, v, l => some { l with attrs := l.attrs ++ [.add "description" v] }
  | .domainOu, v, l => some { l with ou := v }
  | _, _, _ => none

/-- The function `adcli_tool_group_create`, whose connection warning differs from the
others'. -/
def adcliToolGroupCreate (args : List Getopt) (operands : List String) (st : ToolState) :
    Option (Int × ToolState) :=
  runTool env groupCreateOptions groupCreateOption {} (fun l operands st =>
    match operands with
    | [name] =>
      let entry : EntryRef := ⟨true, name, l.ou⟩
      connectThen env (fun domain err => "couldn't connect to domain " ++ domain ++ ": " ++ err)
        (finishTool env (.create entry l.attrs) "creating group" entry) st
    | _ => (2, st.warn "specify one group to create")) args operands st

/-- The `member` change `expand_user_dn_as_member` makes for DN `dn`. -/
def memberChange (adding : Bool) (dn : String) : AttrCall :=
  if adding then .add1 "member" (some dn) else .delete1 "member" (some dn)

/-- The function `expand_user_dn_as_member`: load user `user` and add (`adding`) or
delete its DN as a value of `member`. -/
def expandUserDnAsMember (attrs : List AttrCall) (user : String) (adding : Bool) (st : ToolState) :
    Int × List AttrCall × ToolState :=
  let entry : EntryRef := ⟨false, user, none⟩
  let (res, st) := st.send env (.load entry)
  if res ≠ .success then
    (-res.code, attrs, st.warn ("couldn't lookup user " ++ user ++ " in domain " ++
      cstr (env.domainName st.calls st.conn) ++ ": " ++ cstr (env.lastError st.calls)))
  else match env.getDn entry with
    | none => (-AdcliResult.errConfig.code, attrs,
        st.warn ("couldn't found user " ++ user ++ " in domain " ++ cstr (env.domainName st.calls st.conn)))
    | some dn => (AdcliResult.success.code, attrs ++ [memberChange adding dn], st)

/-- The loop `for (i = 1; i < argc; i++)` of the member tools over the users. -/
def expandMembers (adding : Bool) : List String → List AttrCall → ToolState → Int × List AttrCall × ToolState
  | [], attrs, st => (AdcliResult.success.code, attrs, st)
  | u :: us, attrs, st =>
    let (res, attrs, st) := expandUserDnAsMember env attrs u adding st
    if res ≠ AdcliResult.success.code then (res, attrs, st) else expandMembers adding us attrs st

/-- `adcli_tool_member_add` and `adcli_tool_member_remove`: the users' DNs are added when
`adding`, `operandText` asks for the operands, `what` begins the failure warning. -/
def memberTool (adding : Bool) (operandText what : String) (args : List Getopt) (operands : List String)
    (st : ToolState) : Option (Int × ToolState) :=
  runTool env connectionOptions (fun _ _ (_ : Unit) => none) () (fun _ operands st =>
    match operands with
    | group :: user :: users =>
      let entry : EntryRef := ⟨true, group, none⟩
      connectThen env connectText (fun st =>
        let (res, attrs, st) := expandMembers env adding (user :: users) [] st
        if res ≠ AdcliResult.success.code then (res, st)
        else finishTool env (.modify entry attrs) what entry st) st
    | _ => (2, st.warn operandText)) args operands st

/-- The function `adcli_tool_member_add`. -/
def adcliToolMemberAdd : List Getopt → List String → ToolState → Option (Int × ToolState) :=
  memberTool env true "specify a group name and a user to add" "adding member(s) to group"

/-- The function `adcli_tool_member_remove`, whose failure warning is `add-member`'s. -/
def adcliToolMemberRemove : List Getopt → List String → ToolState → Option (Int × ToolState) :=
  memberTool env false "specify a group name and a user to remove" "adding member(s) to group"

end Tools

/-! ## What the tools do -/

section StepFacts
variable (env : ToolEnv)

/-- A step whose call succeeded goes on with `k` of the state after the call. -/
theorem sendStep_ok {α : Type} {c : ToolCall} {text : ToolState → String} {k : ToolState → α}
    {st : ToolState} {a : α} (h : sendStep env c text k st = .ok a) :
    env.answer st.calls c = .success ∧ a = k (st.send env c).2 := by
  simp only [sendStep, ToolState.send] at h ⊢
  split_ifs at h with hres
  cases h
  exact ⟨not_not.mp hres, rfl⟩

/-- A step whose call failed warns and ends the tool with the negated result. -/
theorem sendStep_error {α : Type} {c : ToolCall} {text : ToolState → String} {k : ToolState → α}
    {st : ToolState} {r : Int × ToolState} (h : sendStep env c text k st = .error r) :
    env.answer st.calls c ≠ .success ∧
      r = (-(env.answer st.calls c).code, (st.send env c).2.warn (text (st.send env c).2)) := by
  simp only [sendStep, ToolState.send] at h ⊢
  split_ifs at h with hres
  cases h
  exact ⟨hres, rfl⟩

/-- The connect step of a tool makes one call, a connect. Either it succeeded and the tool
is `k` after it, or the tool ends there with a code that is not `0` and one warning. -/
theorem connectThen_cases (text : String → String → String) (k : ToolState → Int × ToolState)
    (st : ToolState) :
    ∃ cn st₁, st₁.calls = st.calls ++ [.connect cn] ∧ st₁.out = st.out ∧
      ((env.answer st.calls (.connect cn) = .success ∧ connectThen env text k st = k st₁) ∨
        ((connectThen env text k st).1 ≠ 0 ∧ ∃ t, (connectThen env text k st).2 = st₁.warn t)) := by
  unfold connectThen
  rcases hct : connectTool env text st with r | st₁ <;> simp only [connectTool] at hct
  all_goals refine ⟨_, ({ st with conn := { st.conn with userAccountLogin := true } }.send env
    (.connect { st.conn with userAccountLogin := true })).2, rfl, rfl, ?_⟩
  · obtain ⟨hans, rfl⟩ := sendStep_error env hct
    exact .inr ⟨by simpa using hans, _, rfl⟩
  · obtain ⟨hans, rfl⟩ := sendStep_ok env hct
    exact .inl ⟨hans, rfl⟩

/-- A call other than a connect that a tool sent after its connect step, and that was not
sent before: the connect succeeded, and `k` sent the call. -/
theorem connectThen_sent {text : String → String → String} {k : ToolState → Int × ToolState}
    {st st' : ToolState} {code : Int} {c : ToolCall} (h : connectThen env text k st = (code, st'))
    (hc : c ∈ st'.calls) (hfresh : c ∉ st.calls) (hconn : ∀ cn, c ≠ .connect cn) :
    ∃ cn st₁, st₁.calls = st.calls ++ [.connect cn] ∧ env.answer st.calls (.connect cn) = .success ∧
      k st₁ = (code, st') := by
  obtain ⟨cn, st₁, hc₁, -, ⟨hans, hk⟩ | ⟨-, t, hw⟩⟩ := connectThen_cases env text k st
  · exact ⟨cn, st₁, hc₁, hans, hk.symm.trans h⟩
  · simp only [h] at hw
    rw [hw, ToolState.warn_calls, hc₁, List.mem_append, List.mem_singleton] at hc
    exact (hc.elim hfresh (hconn cn)).elim

/-- The last step makes its call `c`, and ends the tool with `0` exactly when `c` succeeded. -/
theorem finishTool_spec (c : ToolCall) (what : String) (entry : EntryRef) (st : ToolState) :
    (finishTool env c what entry st).2.calls = st.calls ++ [c] ∧
    ((finishTool env c what entry st).1 = 0 ↔ env.answer st.calls c = .success) := by
  simp only [finishTool, ToolState.send]
  split_ifs with h
  · exact ⟨rfl, by simp⟩
  · exact ⟨rfl, iff_of_true rfl (not_not.mp h)⟩

theorem expandUserDnAsMember_spec (attrs : List AttrCall) (user : String) (adding : Bool) (st : ToolState) :
    (expandUserDnAsMember env attrs user adding st).2.2.calls = st.calls ++ [.load ⟨false, user, none⟩] ∧
    ((expandUserDnAsMember env attrs user adding st).1 = AdcliResult.success.code →
      env.answer st.calls (.load ⟨false, user, none⟩) = .success ∧ ∃ dn, env.getDn ⟨false, user, none⟩ = some dn ∧
        (expandUserDnAsMember env attrs user adding st).2.1 = attrs ++ [memberChange adding dn]) := by
  simp only [expandUserDnAsMember, ToolState.send]
  split_ifs with h
  · exact ⟨rfl, fun he => absurd (by simpa [AdcliResult.code_success] using he) h⟩
  · rcases hd : env.getDn ⟨false, user, none⟩ with _ | dn
    · exact ⟨rfl, fun he => by simp [AdcliResult.code] at he⟩
    · exact ⟨rfl, fun _ => ⟨not_not.mp h, dn, rfl, rfl⟩⟩

/-- The users' loop looks up users only; when it ends with `ADCLI_SUCCESS` it has looked up
every user, in order, each lookup succeeded and found the user's DN, and it added each
one's change, in order. -/
theorem expandMembers_spec (adding : Bool) : ∀ (users : List String) (attrs : List AttrCall) (st : ToolState),
    (∃ loads, (expandMembers env adding users attrs st).2.2.calls = st.calls ++ loads ∧
      ∀ c ∈ loads, ∃ u, c = .load ⟨false, u, none⟩) ∧
    ((expandMembers env adding users attrs st).1 = AdcliResult.success.code →
      ∃ dns, List.Forall₂ (fun u dn => env.getDn ⟨false, u, none⟩ = some dn) users dns ∧
        (expandMembers env adding users attrs st).2.1 = attrs ++ dns.map (memberChange adding) ∧
        (expandMembers env adding users attrs st).2.2.calls =
          st.calls ++ users.map (fun u => .load ⟨false, u, none⟩) ∧
        AllSucceed env st.calls (users.map fun u => .load ⟨false, u, none⟩))
  | [], attrs, st =>
    ⟨⟨[], by simp [expandMembers], by simp⟩, fun _ => ⟨[], .nil, by simp [expandMembers], by simp [expandMembers], trivial⟩⟩
  | u :: us, attrs, st => by
    obtain ⟨hc, hok⟩ := expandUserDnAsMember_spec env attrs u adding st
    rcases hx : expandUserDnAsMember env attrs u adding st with ⟨res, attrs₁, st₁⟩
    rw [hx] at hc hok
    dsimp only at hc hok
    simp only [expandMembers, hx]
    split_ifs with hres
    · exact ⟨⟨_, hc, by simp⟩, fun he => absurd he hres⟩
    · obtain ⟨hans, dn, hdn, hattrs⟩ := hok (not_not.mp hres)
      obtain ⟨⟨loads, hl, hlu⟩, hrest⟩ := expandMembers_spec adding us attrs₁ st₁
      refine ⟨⟨.load ⟨false, u, none⟩ :: loads, by rw [hl, hc]; simp, ?_⟩, fun he => ?_⟩
      · simp only [List.mem_cons, forall_eq_or_imp]
        exact ⟨⟨u, rfl⟩, hlu⟩
      · obtain ⟨dns, hdns, ha, hcalls, hall⟩ := hrest he
        exact ⟨dn :: dns, .cons hdn hdns, by rw [ha, hattrs]; simp, by rw [hcalls, hc]; simp,
          ⟨hans, hc ▸ hall⟩⟩

theorem finishTool_calls {c : ToolCall} {what : String} {entry : EntryRef} {st st' : ToolState} {code : Int}
    (h : finishTool env c what entry st = (code, st')) : st'.calls = st.calls ++ [c] := by
  have := (finishTool_spec env c what entry st).1
  rwa [h] at this

/-- A call of the last step's calls that was not sent before is the last step's call. -/
theorem finishTool_sent {c c' : ToolCall} {what : String} {entry : EntryRef} {st st' : ToolState} {code : Int}
    (h : finishTool env c what entry st = (code, st')) (hc : c' ∈ st'.calls) (hfresh : c' ∉ st.calls) :
    c' = c ∧ st'.calls = st.calls ++ [c] := by
  have hcalls := finishTool_calls env h
  rw [hcalls, List.mem_append, List.mem_singleton] at hc
  exact ⟨hc.resolve_left hfresh, hcalls⟩

/-- A failed last call ends the tool with its warning. -/
theorem finishTool_warn {c : ToolCall} {what : String} {entry : EntryRef} {st st' : ToolState} {code : Int}
    (h : finishTool env c what entry st = (code, st')) (hcode : code ≠ 0) :
    st'.out.getLast? = some (.warn (failText env what entry (st.send env c).2)) := by
  simp only [finishTool] at h
  split_ifs at h with hres
  · cases h; simp [ToolState.warn]
  · cases h; exact absurd rfl hcode

end StepFacts

/-- A call that a tool sent and that was not sent before: the option loop went through
without a call, and the tool's body, on the locals the loop made of the options, sent it. -/
theorem runTool_sent (env : ToolEnv) {σ : Type} {options : List Opt} {own : Opt → Option String → σ → Option σ}
    {init : σ} {body : σ → List String → ToolState → Int × ToolState} {args : List Getopt}
    {operands : List String} {st st' : ToolState} {code : Int} {c : ToolCall}
    (h : runTool env options own init body args operands st = some (code, st'))
    (hc : c ∈ st'.calls) (hfresh : c ∉ st.calls) :
    ∃ st₁, st₁.calls = st.calls ∧ body (ownFold own args init) operands st₁ = (code, st') := by
  obtain ⟨⟨r, st₁⟩, hl, h⟩ := Option.map_eq_some'.mp h
  obtain ⟨hc₁, hloc⟩ := optionLoop_calls env hl
  rcases r with code₁ | l
  · cases h; exact absurd (hc₁ ▸ hc) hfresh
  · exact ⟨st₁, hc₁, hloc l rfl ▸ h⟩

/-- Whether the option is `--unix-home`, `--unix-uid`, `--unix-gid` or `--unix-shell`. -/
def Getopt.isUnixAttr : Getopt → Bool
  | .opt .unixHome _ | .opt .unixUid _ | .opt .unixGid _ | .opt .unixShell _ => true
  | _ => false

/-- Whether the option is `--nis-domain`. -/
def Getopt.isNisDomain : Getopt → Bool
  | .opt .nisDomain _ => true
  | _ => false

theorem ownFold_userCreateOption : ∀ (args : List Getopt) (l : UserCreateLocals),
    (ownFold userCreateOption args l).hasUnixAttr = (l.hasUnixAttr || args.any Getopt.isUnixAttr) ∧
    (ownFold userCreateOption args l).hasNisDomain = (l.hasNisDomain || args.any Getopt.isNisDomain)
  | [], l => by simp [ownFold]
  | .opt o v :: gs, l => by
    obtain ⟨h1, h2⟩ := ownFold_userCreateOption gs ((userCreateOption o v l).getD l)
    rw [ownFold, h1, h2, List.any_cons, List.any_cons]
    cases o <;> simp only [userCreateOption, Option.getD_some, Option.getD_none, Getopt.isUnixAttr,
      Getopt.isNisDomain, Bool.or_true, Bool.true_or, Bool.false_or, Bool.or_false, Bool.or_assoc, and_self]
  | .unknown :: gs, l => by
    simpa [ownFold, Getopt.isUnixAttr, Getopt.isNisDomain] using ownFold_userCreateOption gs l
  | .missing :: gs, l => by
    simpa [ownFold, Getopt.isUnixAttr, Getopt.isNisDomain] using ownFold_userCreateOption gs l

section ToolFacts

variable (env : ToolEnv)

/-- **What `create-user` sends.** A `create-user` that sends a create was given one user
name and connected; it looked up the NIS domain exactly when one of `--unix-home`,
`--unix-uid`, `--unix-gid` and `--unix-shell` was given and `--nis-domain` was not, and
then created the user, in the OU of the options, with the attributes of the options and,
after a lookup, the NIS domain's; the connect and the lookup succeeded, and it makes no
other call. -/
theorem adcliToolUserCreate_create {args : List Getopt} {operands : List String} {st st' : ToolState}
    {code : Int} {e : EntryRef} {attrs : List AttrCall}
    (h : adcliToolUserCreate env args operands st = some (code, st'))
    (hc : ToolCall.create e attrs ∈ st'.calls) (hfresh : ∀ e a, ToolCall.create e a ∉ st.calls) :
    ∃ name c, operands = [name] ∧ e = ⟨false, name, (ownFold userCreateOption args {}).ou⟩ ∧
      attrs = (if args.any Getopt.isUnixAttr && !args.any Getopt.isNisDomain then
        env.nisDomainAttrs e (ownFold userCreateOption args {}).attrs else (ownFold userCreateOption args {}).attrs) ∧
      st'.calls = st.calls ++ [.connect c] ++
        (if args.any Getopt.isUnixAttr && !args.any Getopt.isNisDomain then [.getNisDomain e] else []) ++
        [.create e attrs] ∧
      AllSucceed env st.calls ([.connect c] ++
        (if args.any Getopt.isUnixAttr && !args.any Getopt.isNisDomain then [.getNisDomain e] else [])) := by
  obtain ⟨st₁, hc₁, h⟩ := runTool_sent env h hc (hfresh e attrs)
  obtain ⟨hu, hn⟩ := ownFold_userCreateOption args {}
  split at h
  case h_2 => cases h; simp [hc₁, hfresh] at hc
  rename_i name _
  obtain ⟨cn, st₂, hc₂, hans, h⟩ := connectThen_sent env h hc (hc₁ ▸ hfresh e attrs) (fun _ => nofun)
  rw [hc₁] at hc₂ hans
  have hcond : ((ownFold userCreateOption args {}).hasUnixAttr && !(ownFold userCreateOption args {}).hasNisDomain) =
      (args.any Getopt.isUnixAttr && !args.any Getopt.isNisDomain) := by
    rw [hu, hn]; rfl
  rw [hcond] at h
  cases hb : (args.any Getopt.isUnixAttr && !args.any Getopt.isNisDomain)
  case false =>
    simp only [hb, Bool.false_eq_true, if_false] at h
    obtain ⟨hce, hcalls⟩ := finishTool_sent env h hc (by simp [hc₂, hfresh])
    obtain ⟨rfl, rfl⟩ := ToolCall.create.inj hce
    exact ⟨name, cn, rfl, rfl, by simp, by simp [hcalls, hc₂], by simpa using hans⟩
  case true =>
    simp only [hb, if_true] at h
    split at h
    next r hr =>
      obtain ⟨-, rfl⟩ := sendStep_error env hr
      cases h
      simp [hc₂, hfresh] at hc
    next attrs₃ st₃ hr =>
      obtain ⟨hnis, hr⟩ := sendStep_ok env hr
      cases hr
      obtain ⟨hce, hcalls⟩ := finishTool_sent env h hc (by simp [hc₂, hfresh])
      obtain ⟨rfl, rfl⟩ := ToolCall.create.inj hce
      exact ⟨name, cn, rfl, rfl, by simp, by simp [hcalls, hc₂], ⟨hans, hc₂ ▸ hnis, trivial⟩⟩

/-- `create-user --unix-uid=1000 alice`: the NIS domain is looked up before the create. -/
theorem adcliToolUserCreate_create_alice :
    ∃ code st', adcliToolUserCreate sampleToolEnv [.opt .unixUid (some "1000")] ["alice"] toolStart =
        some (code, st') ∧
      ToolCall.create ⟨false, "alice", none⟩ [.add "uidNumber" (some "1000"), .add "msSFU30NisDomain" (some "corp")] ∈
        st'.calls ∧
      ∃ c, st'.calls = [.connect c, .getNisDomain ⟨false, "alice", none⟩,
        .create ⟨false, "alice", none⟩ [.add "uidNumber" (some "1000"), .add "msSFU30NisDomain" (some "corp")]] := by
  have run : ∀ code st', adcliToolUserCreate sampleToolEnv [.opt .unixUid (some "1000")] ["alice"] toolStart =
        some (code, st') →
      ToolCall.create ⟨false, "alice", none⟩ [.add "uidNumber" (some "1000"), .add "msSFU30NisDomain" (some "corp")] ∈
        st'.calls →
      ∃ c, st'.calls = [.connect c, .getNisDomain ⟨false, "alice", none⟩,
        .create ⟨false, "alice", none⟩ [.add "uidNumber" (some "1000"), .add "msSFU30NisDomain" (some "corp")]] :=
    fun _ _ h hc => by
      obtain ⟨_, c, -, -, -, hcalls, -⟩ := adcliToolUserCreate_create sampleToolEnv h hc (fun _ _ h => nomatch h)
      exact ⟨c, hcalls⟩
  exact ⟨_, _, rfl, by decide, run _ _ rfl (by decide)⟩

/-- **`passwd-user` never sets an empty password.** A `passwd-user` that sends a password
set was given one user name and connected, the connect succeeded, and it sets on that user
the password the prompt returned for the user's SAM name, which is not empty; it makes no
other call. -/
theorem adcliToolUserPasswd_setPasswd {args : List Getopt} {operands : List String} {st st' : ToolState}
    {code : Int} {e : EntryRef} {pwd : String}
    (h : adcliToolUserPasswd env args operands st = some (code, st'))
    (hs : ToolCall.setPasswd e pwd ∈ st'.calls) (hfresh : ∀ e p, ToolCall.setPasswd e p ∉ st.calls) :
    ∃ name c, operands = [name] ∧ e = ⟨false, name, none⟩ ∧ pwd ≠ "" ∧
      env.promptPassword (env.samName e) = some pwd ∧ st'.calls = st.calls ++ [.connect c, .setPasswd e pwd] ∧
      AllSucceed env st.calls [.connect c] := by
  obtain ⟨st₁, hc₁, h⟩ := runTool_sent env h hs (hfresh e pwd)
  split at h
  case h_2 => cases h; simp [hc₁, hfresh] at hs
  rename_i name _
  obtain ⟨cn, st₂, hc₂, hans, h⟩ := connectThen_sent env h hs (hc₁ ▸ hfresh e pwd) (fun _ => nofun)
  rw [hc₁] at hc₂ hans
  split at h
  case h_3 pwd' hne hpw =>
    obtain ⟨hce, hcalls⟩ := finishTool_sent env h hs (by simp [hc₂, hfresh])
    obtain ⟨rfl, rfl⟩ := ToolCall.setPasswd.inj hce
    exact ⟨name, cn, rfl, rfl, hne, hpw, by simp [hcalls, hc₂], by simpa using hans⟩
  all_goals cases h; simp [hc₂, hfresh] at hs

/-- `passwd-user alice` in `sampleToolEnv`, whose prompt answers `secret`. -/
theorem adcliToolUserPasswd_setPasswd_alice :
    ∃ code st', adcliToolUserPasswd sampleToolEnv [] ["alice"] toolStart = some (code, st') ∧
      ToolCall.setPasswd ⟨false, "alice", none⟩ "secret" ∈ st'.calls ∧
      ∃ c, st'.calls = [.connect c, .setPasswd ⟨false, "alice", none⟩ "secret"] := by
  have run : ∀ code st', adcliToolUserPasswd sampleToolEnv [] ["alice"] toolStart = some (code, st') →
      ToolCall.setPasswd ⟨false, "alice", none⟩ "secret" ∈ st'.calls →
      ∃ c, st'.calls = [.connect c, .setPasswd ⟨false, "alice", none⟩ "secret"] :=
    fun _ _ h hs => by
      obtain ⟨_, c, -, -, -, -, hcalls, -⟩ :=
        adcliToolUserPasswd_setPasswd sampleToolEnv h hs (fun _ _ h => nomatch h)
      exact ⟨c, hcalls⟩
  exact ⟨_, _, rfl, by decide, run _ _ rfl (by decide)⟩

/-- A member tool that sends a modify got to its last step: it was given a group and
users, connected, looked up every user in order, the connect and every lookup succeeded
and found each one's DN, and its last call is the modify of the group with each DN's
change, in order. -/
theorem memberTool_finish {adding : Bool} {operandText what : String} {args : List Getopt}
    {operands : List String} {st st' : ToolState} {code : Int} {e : EntryRef} {attrs : List AttrCall}
    (h : memberTool env adding operandText what args operands st = some (code, st'))
    (hm : ToolCall.modify e attrs ∈ st'.calls) (hfresh : ∀ e a, ToolCall.modify e a ∉ st.calls) :
    ∃ group users dns c st₃, operands = group :: users ∧ users ≠ [] ∧ e = ⟨true, group, none⟩ ∧
      List.Forall₂ (fun u dn => env.getDn ⟨false, u, none⟩ = some dn) users dns ∧
      attrs = dns.map (memberChange adding) ∧
      st₃.calls = st.calls ++ ToolCall.connect c :: users.map (fun u => .load ⟨false, u, none⟩) ∧
      AllSucceed env st.calls (ToolCall.connect c :: users.map (fun u => .load ⟨false, u, none⟩)) ∧
      finishTool env (.modify e attrs) what e st₃ = (code, st') := by
  obtain ⟨st₁, hc₁, h⟩ := runTool_sent env h hm (hfresh e attrs)
  split at h
  case h_2 => cases h; simp [hc₁, hfresh] at hm
  rename_i group user users _
  obtain ⟨cn, st₂, hc₂, hans, h⟩ := connectThen_sent env h hm (hc₁ ▸ hfresh e attrs) (fun _ => nofun)
  rw [hc₁] at hc₂ hans
  obtain ⟨⟨loads, hl₃, hlu⟩, hexp⟩ := expandMembers_spec env adding (user :: users) [] st₂
  rcases hx : expandMembers env adding (user :: users) [] st₂ with ⟨res, attrs₃, st₃⟩
  rw [hx] at hl₃ hexp
  simp only [hx] at h
  dsimp only at hl₃ hexp
  split_ifs at h with hres
  · cases h
    rw [hl₃, hc₂] at hm
    rcases List.mem_append.mp hm with hm | hm
    · simp [hfresh] at hm
    · obtain ⟨u, hu⟩ := hlu _ hm; cases hu
  obtain ⟨dns, hdns, ha, hcalls, hall⟩ := hexp (not_not.mp hres)
  have hc₃ : st₃.calls = st.calls ++ ToolCall.connect cn :: (user :: users).map (fun u => .load ⟨false, u, none⟩) := by
    rw [hcalls, hc₂]; simp
  obtain ⟨hce, -⟩ := finishTool_sent env h hm (by simp [hc₃, hfresh])
  obtain ⟨rfl, rfl⟩ := ToolCall.modify.inj hce
  exact ⟨group, user :: users, dns, cn, st₃, rfl, List.cons_ne_nil _ _, rfl, hdns, by simpa using ha, hc₃,
    ⟨hans, hc₂ ▸ hall⟩, h⟩

/-- **`add-member` and `remove-member` are all or nothing.** A member tool that sends a
modify was given a group and at least one user, connected, looked up every user in order;
the connect and every lookup succeeded and found the user's DN, so a failed connect or
lookup ends the tool before any modify; and it then modified the group with exactly the
change of each user's DN, in the users' order; it makes no other call. -/
theorem memberTool_modify {adding : Bool} {operandText what : String} {args : List Getopt}
    {operands : List String} {st st' : ToolState} {code : Int} {e : EntryRef} {attrs : List AttrCall}
    (h : memberTool env adding operandText what args operands st = some (code, st'))
    (hm : ToolCall.modify e attrs ∈ st'.calls) (hfresh : ∀ e a, ToolCall.modify e a ∉ st.calls) :
    ∃ group users dns c, operands = group :: users ∧ users ≠ [] ∧ e = ⟨true, group, none⟩ ∧
      List.Forall₂ (fun u dn => env.getDn ⟨false, u, none⟩ = some dn) users dns ∧
      attrs = dns.map (memberChange adding) ∧
      st'.calls = st.calls ++ ToolCall.connect c :: users.map (fun u => .load ⟨false, u, none⟩) ++
        [.modify e attrs] ∧
      AllSucceed env st.calls (ToolCall.connect c :: users.map (fun u => .load ⟨false, u, none⟩)) := by
  obtain ⟨group, users, dns, c, st₃, ho, hne, he, hdns, ha, hc₃, hall, hfin⟩ := memberTool_finish env h hm hfresh
  exact ⟨group, users, dns, c, ho, hne, he, hdns, ha, by rw [finishTool_calls env hfin, hc₃], hall⟩

/-- `add-member staff alice bob`: the modify adds both users' DNs. -/
theorem memberTool_modify_staff :
    ∃ code st', adcliToolMemberAdd sampleToolEnv [] ["staff", "alice", "bob"] toolStart = some (code, st') ∧
      ToolCall.modify ⟨true, "staff", none⟩ [memberChange true "CN=alice,CN=Users,DC=corp,DC=example,DC=com",
        memberChange true "CN=bob,CN=Users,DC=corp,DC=example,DC=com"] ∈ st'.calls ∧
      ∃ dns, List.Forall₂ (fun u dn => sampleToolEnv.getDn ⟨false, u, none⟩ = some dn) ["alice", "bob"] dns := by
  have run : ∀ code st', adcliToolMemberAdd sampleToolEnv [] ["staff", "alice", "bob"] toolStart = some (code, st') →
      ToolCall.modify ⟨true, "staff", none⟩ [memberChange true "CN=alice,CN=Users,DC=corp,DC=example,DC=com",
        memberChange true "CN=bob,CN=Users,DC=corp,DC=example,DC=com"] ∈ st'.calls →
      ∃ dns, List.Forall₂ (fun u dn => sampleToolEnv.getDn ⟨false, u, none⟩ = some dn) ["alice", "bob"] dns :=
    fun _ _ h hm => by
      obtain ⟨_, _, dns, _, ho, -, -, hdns, -⟩ := memberTool_modify sampleToolEnv h hm (fun _ _ h => nomatch h)
      obtain ⟨-, rfl⟩ := List.cons.inj ho
      exact ⟨dns, hdns⟩
  exact ⟨_, _, rfl, by decide, run _ _ rfl (by decide)⟩

theorem runTool_isSome {σ : Type} {options : List Opt} {own : Opt → Option String → σ → Option σ} {init : σ}
    {body : σ → List String → ToolState → Int × ToolState}
    (hown : ∀ o ∈ options, o ≠ .help → ∀ v l, own o v l = none → o ∈ parsedOptions)
    (args : List Getopt) (operands : List String) (st : ToolState) :
    (runTool env options own init body args operands st).isSome := by
  rw [runTool, Option.isSome_map']
  exact optionLoop_isSome env hown args init st

theorem userCreateOption_handled : ∀ o ∈ userCreateOptions, o ≠ .help → ∀ v l, userCreateOption o v l = none →
    o ∈ parsedOptions := by
  intro o ho hne v l hl
  cases o <;> first | (cases hl; done) | decide | exact absurd rfl hne | exact absurd ho (by decide)

theorem groupCreateOption_handled : ∀ o ∈ groupCreateOptions, o ≠ .help → ∀ v l, groupCreateOption o v l = none →
    o ∈ parsedOptions := by
  intro o ho hne v l hl
  cases o <;> first | (cases hl; done) | decide | exact absurd rfl hne | exact absurd ho (by decide)

/-- **No tool reaches the `assert` of `parse_option`.** Every option of a tool's table is
one of its own cases or one `parse_option` has a case for, so on every command line every
tool of entry.c runs to an exit code. -/
theorem adcliTools_isSome (args : List Getopt) (operands : List String) (st : ToolState) :
    (adcliToolUserCreate env args operands st).isSome ∧ (adcliToolUserDelete env args operands st).isSome ∧
    (adcliToolUserPasswd env args operands st).isSome ∧ (adcliToolGroupCreate env args operands st).isSome ∧
    (adcliToolGroupDelete env args operands st).isSome ∧ (adcliToolMemberAdd env args operands st).isSome ∧
    (adcliToolMemberRemove env args operands st).isSome := by
  have hconn : ∀ o ∈ connectionOptions, o ≠ .help → ∀ (v : Option String) (l : Unit), (none : Option Unit) = none →
      o ∈ parsedOptions := fun o ho hne _ _ _ => by
    revert o; decide
  unfold adcliToolUserDelete adcliToolGroupDelete adcliToolMemberAdd adcliToolMemberRemove deleteTool memberTool
  exact ⟨runTool_isSome env userCreateOption_handled .., runTool_isSome env hconn .., runTool_isSome env hconn ..,
    runTool_isSome env groupCreateOption_handled .., runTool_isSome env hconn .., runTool_isSome env hconn ..,
    runTool_isSome env hconn ..⟩

end ToolFacts

end Adcli

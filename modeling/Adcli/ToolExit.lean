/-
The exit codes of the tools of `entry.c`, and what they print. Every tool ends in one of
four ways: `--help` prints the tool's usages and the common ones and exits with `0`
having sent nothing; an unknown option or a missing argument (`'?'`, after
`getopt_long`'s diagnostic, or `':'`) prints the same two usages and exits with `2` having
sent nothing; any other failure (an option `parse_option` refuses, wrong operands, a call
the domain refused, a user not found) exits with a code that is not `0` and prints exactly
one line, its warning; and otherwise the tool exits with `0`, prints nothing, and every
call it sent was answered `ADCLI_SUCCESS`.

The proof follows the tools' shape: `parse_option` and the option loop, then one lemma per
step of the bodies (a sent call, the connect, the users' lookups, the last call), then
one per body, assembled over `runTool`. It rests on `EUSAGE` not being `0`, which
`tools.h` fixes.
-/
import Adcli.Tools

namespace Adcli

/-! ## What a run reports -/

section Reports

variable (env : ToolEnv)

/-- How a part of a tool that starts in `st` ends in `st'` with code `code`: a code that is
not `0` with one warning printed, or `0` with nothing printed after calls, at least one,
that all succeeded. -/
def Reports (st : ToolState) (code : Int) (st' : ToolState) : Prop :=
  (code ≠ 0 ∧ ∃ t, st'.out = st.out ++ [.warn t]) ∨
    (code = 0 ∧ Succeeded env st st' ∧ st.calls.length < st'.calls.length)

/-- How a tool that starts in `st` ends in `st'` with exit code `code`: as its option loop
ends it on `'h'`, `'?'` or `':'` (`UsageExit`), nothing sent; otherwise as `Reports` says. -/
def ToolExit (st : ToolState) (code : Int) (st' : ToolState) : Prop :=
  (st'.calls = st.calls ∧ ∃ out, st'.out = st.out ++ out ∧ UsageExit code out) ∨ Reports env st code st'

/-- A part that follows silent, successful calls reports as it would alone. -/
theorem Reports.of_succeeded {st st₁ st' : ToolState} {code : Int} (h₁ : Succeeded env st st₁)
    (h : Reports env st₁ code st') : Reports env st code st' := by
  rcases h with ⟨hc, t, ho⟩ | ⟨hc, hs, hl⟩
  · exact .inl ⟨hc, t, by rw [ho, h₁.1]⟩
  · exact .inr ⟨hc, h₁.trans env hs, lt_of_le_of_lt (h₁.calls_length env) hl⟩

/-- A warning, after nothing printed, that ends a part with a code that is not `0`. -/
theorem Reports.warn {st st₁ : ToolState} {code : Int} (hc : code ≠ 0) (hout : st₁.out = st.out) (t : String) :
    Reports env st code (st₁.warn t) :=
  .inl ⟨hc, t, by rw [ToolState.warn, hout]⟩

/-- The warning of wrong operands or an empty password, which ends a tool with `2`. -/
theorem Reports.warn_two (st : ToolState) (t : String) : Reports env st 2 (st.warn t) :=
  Reports.warn env (by decide) rfl t

end Reports

/-! ## The option loop -/

section Loop

variable (env : ToolEnv) {σ : Type} {options : List Opt} {own : Opt → Option String → σ → Option σ}

/-- The option loop prints nothing when it reads every option; otherwise it ends the tool
on `'h'`, `'?'` or `':'` as `UsageExit` says, or with a code that is not `0` and one
warning. -/
theorem optionLoop_out (heu : env.eusage ≠ 0) :
    ∀ {args : List Getopt} {l : σ} {st st' : ToolState} {r : Except Int σ},
      optionLoop env options own args l st = some (r, st') →
      (∃ l', r = .ok l' ∧ st'.out = st.out) ∨
        (∃ code out, r = .error code ∧ st'.out = st.out ++ out ∧ UsageExit code out) ∨
        ∃ code, r = .error code ∧ code ≠ 0 ∧ ∃ t, st'.out = st.out ++ [.warn t]
  | [], _, _, _, _, h => by cases h; exact .inl ⟨_, rfl, rfl⟩
  | g :: gs, l, st, st', r, h => by
    rcases optionLoop_cons env h with ⟨code, out, rfl, rfl, hu⟩ | ⟨o, v, rfl, -, -, ⟨l', -, h⟩ | ⟨-, res, st₁, hp, h⟩⟩
    · exact .inr (.inl ⟨code, out, rfl, rfl, hu⟩)
    · exact optionLoop_out heu h
    · rcases (parseOption_effect env hp).2 with ⟨rfl, hout⟩ | ⟨rfl, t, hout⟩
      · rcases h with ⟨hne, -⟩ | ⟨-, h⟩
        · exact absurd rfl hne
        · simpa only [hout] using optionLoop_out heu h
      · rcases h with ⟨-, rfl, rfl⟩ | ⟨he, -⟩
        · exact .inr (.inr ⟨_, rfl, heu, t, hout⟩)
        · exact absurd he heu

/-- A tool whose body reports reports, or prints its usages on `'h'`, `'?'` and `':'`. -/
theorem runTool_exit (heu : env.eusage ≠ 0) {init : σ} {body : σ → List String → ToolState → Int × ToolState}
    (hbody : ∀ l operands st, Reports env st (body l operands st).1 (body l operands st).2)
    {args : List Getopt} {operands : List String} {st st' : ToolState} {code : Int}
    (h : runTool env options own init body args operands st = some (code, st')) : ToolExit env st code st' := by
  obtain ⟨⟨r, st₁⟩, hl, h⟩ := Option.map_eq_some'.mp h
  have hc := (optionLoop_calls env hl).1
  rcases optionLoop_out env heu hl with ⟨l, rfl, hout⟩ | ⟨c, out, rfl, hout, hu⟩ | ⟨c, rfl, hc0, t, hout⟩
  · have hb := hbody l operands st₁
    rw [show body l operands st₁ = (code, st') from h] at hb
    exact .inr (Reports.of_succeeded env ⟨hout, [], by rw [hc, List.append_nil], trivial⟩ hb)
  all_goals cases h
  · exact .inl ⟨hc, out, hout, hu⟩
  · exact .inr (.inl ⟨hc0, t, hout⟩)

end Loop

/-! ## The steps of the tools -/

section Steps

variable (env : ToolEnv)

theorem send_succeeded {c : ToolCall} {st : ToolState} (h : env.answer st.calls c = .success) :
    Succeeded env st (st.send env c).2 :=
  ⟨rfl, [c], rfl, (allSucceed_singleton env _ _).mpr h⟩

/-- A step whose call failed reports its warning. -/
theorem sendStep_reports {α : Type} {c : ToolCall} {text : ToolState → String} {k : ToolState → α}
    {st : ToolState} {r : Int × ToolState} (h : sendStep env c text k st = .error r) : Reports env st r.1 r.2 := by
  obtain ⟨hres, rfl⟩ := sendStep_error env h
  exact .inl ⟨by simpa using hres, _, rfl⟩

/-- A tool whose part after the connect reports, from every state, reports. -/
theorem connectThen_reports {text : String → String → String} {k : ToolState → Int × ToolState} {st : ToolState}
    (hk : ∀ st₁, Reports env st₁ (k st₁).1 (k st₁).2) :
    Reports env st (connectThen env text k st).1 (connectThen env text k st).2 := by
  obtain ⟨cn, st₁, hc₁, ho₁, ⟨hans, hk'⟩ | ⟨hc, t, hw⟩⟩ := connectThen_cases env text k st
  · rw [hk']
    exact Reports.of_succeeded env ⟨ho₁, [.connect cn], hc₁, (allSucceed_singleton env _ _).mpr hans⟩ (hk st₁)
  · rw [hw]
    exact Reports.warn env hc ho₁ t

theorem finishTool_reports (c : ToolCall) (what : String) (entry : EntryRef) (st : ToolState) :
    Reports env st (finishTool env c what entry st).1 (finishTool env c what entry st).2 := by
  simp only [finishTool, ToolState.send]
  split_ifs with hres
  · exact .inl ⟨by simpa using hres, _, rfl⟩
  · exact .inr ⟨rfl, ⟨rfl, [c], rfl, not_not.mp hres, trivial⟩, by simp⟩

/-- One user's lookup: a failure with one warning, or a success after the load succeeded. -/
theorem expandUserDnAsMember_out (attrs : List AttrCall) (user : String) (adding : Bool) (st : ToolState) :
    ((expandUserDnAsMember env attrs user adding st).1 ≠ 0 ∧
      ∃ t, (expandUserDnAsMember env attrs user adding st).2.2.out = st.out ++ [.warn t]) ∨
    ((expandUserDnAsMember env attrs user adding st).1 = 0 ∧
      Succeeded env st (expandUserDnAsMember env attrs user adding st).2.2) := by
  simp only [expandUserDnAsMember, ToolState.send]
  split_ifs with hres
  · exact .inl ⟨by simpa using hres, _, rfl⟩
  · split
    · exact .inl ⟨(by decide : -AdcliResult.errConfig.code ≠ 0), _, rfl⟩
    · exact .inr ⟨rfl, rfl, _, rfl, not_not.mp hres, trivial⟩

/-- The users' loop: a failure with one warning, or a success after every load succeeded. -/
theorem expandMembers_out (adding : Bool) : ∀ (users : List String) (attrs : List AttrCall) (st : ToolState),
    ((expandMembers env adding users attrs st).1 ≠ 0 ∧
      ∃ t, (expandMembers env adding users attrs st).2.2.out = st.out ++ [.warn t]) ∨
    ((expandMembers env adding users attrs st).1 = 0 ∧ Succeeded env st (expandMembers env adding users attrs st).2.2)
  | [], _, st => .inr ⟨rfl, Succeeded.refl env st⟩
  | u :: us, attrs, st => by
    have hu := expandUserDnAsMember_out env attrs u adding st
    rcases hx : expandUserDnAsMember env attrs u adding st with ⟨res, attrs₁, st₁⟩
    rw [hx] at hu
    simp only [expandMembers, hx, AdcliResult.code_success]
    split_ifs with hres
    · rcases hu with hu | ⟨hr, -⟩
      · exact .inl hu
      · exact absurd hr hres
    · rcases hu with ⟨hr, -⟩ | ⟨-, hs⟩
      · exact absurd (not_not.mp hres) hr
      rcases expandMembers_out adding us attrs₁ st₁ with ⟨hr, t, ho⟩ | ⟨hr, hs'⟩
      · exact .inl ⟨hr, t, by rw [ho, hs.1]⟩
      · exact .inr ⟨hr, hs.trans env hs'⟩

end Steps

/-! ## The tools -/

section Tools

variable (env : ToolEnv) (heu : env.eusage ≠ 0) {args : List Getopt} {operands : List String}
  {st st' : ToolState} {code : Int}

include heu

theorem adcliToolUserCreate_exit (h : adcliToolUserCreate env args operands st = some (code, st')) :
    ToolExit env st code st' := by
  refine runTool_exit env heu (fun l operands st => ?_) h
  dsimp only
  split
  · refine connectThen_reports env (fun st₁ => ?_)
    split
    next r hn =>
      split_ifs at hn
      exact sendStep_reports env hn
    next attrs st₂ hn =>
      split_ifs at hn
      · obtain ⟨hans, hn⟩ := sendStep_ok env hn
        cases hn
        exact Reports.of_succeeded env (send_succeeded env hans) (finishTool_reports env _ _ _ _)
      · cases hn
        exact finishTool_reports env _ _ _ _
  · exact Reports.warn_two env _ _

theorem deleteTool_exit {group : Bool} {operandText what : String}
    (h : deleteTool env group operandText what args operands st = some (code, st')) : ToolExit env st code st' := by
  refine runTool_exit env heu (fun l operands st => ?_) h
  dsimp only
  split
  · exact connectThen_reports env (fun _ => finishTool_reports env _ _ _ _)
  · exact Reports.warn_two env _ _

theorem adcliToolUserPasswd_exit (h : adcliToolUserPasswd env args operands st = some (code, st')) :
    ToolExit env st code st' := by
  refine runTool_exit env heu (fun l operands st => ?_) h
  dsimp only
  split
  · refine connectThen_reports env (fun st₁ => ?_)
    split
    · exact Reports.warn_two env _ _
    · exact Reports.warn_two env _ _
    · exact finishTool_reports env _ _ _ _
  · exact Reports.warn_two env _ _

theorem adcliToolGroupCreate_exit (h : adcliToolGroupCreate env args operands st = some (code, st')) :
    ToolExit env st code st' := by
  refine runTool_exit env heu (fun l operands st => ?_) h
  dsimp only
  split
  · exact connectThen_reports env (fun _ => finishTool_reports env _ _ _ _)
  · exact Reports.warn_two env _ _

theorem memberTool_exit {adding : Bool} {operandText what : String}
    (h : memberTool env adding operandText what args operands st = some (code, st')) : ToolExit env st code st' := by
  refine runTool_exit env heu (fun l operands st => ?_) h
  dsimp only
  split
  · rename_i group user users
    refine connectThen_reports env (fun st₁ => ?_)
    have hx := expandMembers_out env adding (user :: users) [] st₁
    rcases hxe : expandMembers env adding (user :: users) [] st₁ with ⟨res, attrs, st₂⟩
    rw [hxe] at hx
    dsimp only at hx ⊢
    rw [AdcliResult.code_success]
    split_ifs with hres
    · rcases hx with hx | ⟨hr, -⟩
      · exact .inl hx
      · exact absurd hr hres
    · rcases hx with ⟨hr, -⟩ | ⟨-, hs⟩
      · exact absurd (not_not.mp hres) hr
      · exact Reports.of_succeeded env hs (finishTool_reports env _ _ _ _)
  · exact Reports.warn_two env _ _

end Tools

end Adcli

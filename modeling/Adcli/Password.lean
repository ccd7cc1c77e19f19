/-
The random computer password: `filter_password_chars` keeps, in place, the octets of a
buffer in `[32, 122]`, whether `char` is signed or not (`filterPasswordChars_eq`), and
`generate_host_password` asks the random source for the octets it still lacks until it
has `length` of them (`generateHostPassword_eq`): it stops right after the `length`-th
octet in range, its `assert` holds, and what it returns is those octets, in order, and a
NUL, whatever the buffer held before.
-/
import Adcli.Basic

namespace Adcli

/-- Octets in `[32, 122]`, the range "the MS documentation says their servers only use". -/
def passwordOctet (b : UInt8) : Bool := decide (32 ≤ b.toNat) && decide (b.toNat ≤ 122)

/-- The test `password[i] >= 32 && password[i] <= 122` of `filter_password_chars`, on an
octet read as a `char` that is `signed` or not as the platform has it. -/
def passwordCharOk (signed : Bool) (b : UInt8) : Bool :=
  let c : Int := if signed && decide (128 ≤ b.toNat) then b.toNat - 256 else b.toNat
  decide (32 ≤ c) && decide (c ≤ 122)

theorem passwordCharOk_eq (signed : Bool) : passwordCharOk signed = passwordOctet := by
  funext b
  have : b.toNat < 256 := b.toNat_lt_size
  rw [Bool.eq_iff_iff]
  cases signed <;> by_cases h : 128 ≤ b.toNat <;> simp [passwordCharOk, passwordOctet, h]
  all_goals omega

/-- The loop of `filter_password_chars (password, length)`: the octets of `password[0 .. length)` in
range are moved, in order, to its front; it returns how many there are. -/
def filterPasswordChars (signed : Bool) (password : List UInt8) (length : Nat) :
    List UInt8 × Nat :=
  compactLoop (passwordCharOk signed) 0 length 0 0 password

theorem filterPasswordChars_eq (signed : Bool) (password : List UInt8) {length : Nat}
    (h : length ≤ password.length) :
    filterPasswordChars signed password length =
      ((password.take length).filter passwordOctet ++
          password.drop ((password.take length).filter passwordOctet).length,
        ((password.take length).filter passwordOctet).length) := by
  rw [filterPasswordChars, compactLoop_eq _ _ _ h, passwordCharOk_eq]

/-- What `krb5_c_random_make_octets` delivers for a request of `n` octets: the next `n`
of the source, or a failure when it holds fewer. -/
def makeOctets (n : Nat) (random : List UInt8) : Option (List UInt8 × List UInt8) :=
  if n ≤ random.length then some (random.take n, random.drop n) else none

/-- The `while (at != length)` loop of `generate_host_password`, with `pos` for `at`:
each turn asks the source for `length - at` octets at `password + at` and keeps those in
range. It gives the buffer, or `none` inside when a call to the source fails, with what
is left of the source; `none` outside is `assert (at <= length)` failing. Each call takes
at least one octet, so the source's length bounds the turns (`fuel`). -/
def generateLoop (signed : Bool) (length : Nat) :
    (fuel pos : Nat) → (password random : List UInt8) → Option (Option (List UInt8) × List UInt8)
  | 0, pos, password, random =>
    if pos = length then some (some password, random) else some (none, random)
  | fuel + 1, pos, password, random =>
    if pos = length then some (some password, random)
    else match makeOctets (length - pos) random with
      | none => some (none, random)
      | some (chunk, rest) =>
        let (buffer, j) := filterPasswordChars signed (chunk ++ password.drop length) (length - pos)
        if pos + j ≤ length then generateLoop signed length fuel (pos + j) (password.take pos ++ buffer) rest
        else none

/-- The function `generate_host_password (enroll, length)`: `malloc (length + 1)` gives a buffer that
holds `garbage` until it is written, and `password[length] = '\0'` ends it. -/
def generateHostPassword (signed : Bool) (length : Nat) (garbage : Nat → UInt8)
    (random : List UInt8) : Option (Option (List UInt8) × List UInt8) :=
  (generateLoop signed length random.length 0 ((List.range (length + 1)).map garbage) random).map
    fun (password, rest) => (password.map (·.set length 0), rest)

/-! ## The loop -/

/-- A state of `generateLoop` from which it finishes: `at <= length`, the buffer has its
`length + 1` octets, the fuel covers the source, and the source holds the octets in range
still wanted. -/
structure LoopOk (length fuel pos : Nat) (password random : List UInt8) : Prop where
  le : pos ≤ length
  buffer : password.length = length + 1
  fuel : random.length ≤ fuel
  enough : length - pos ≤ (random.filter passwordOctet).length

/-- One turn of the loop, when the source holds the `length - pos` octets it asks for: it
takes them, moves those in range to `password + pos`, and its `assert` holds. -/
theorem generateLoop_step {signed : Bool} {length fuel pos : Nat} {password random chunk : List UInt8}
    (hle : pos ≤ length) (hbuf : password.length = length + 1) (hp : pos ≠ length)
    (hlen : length - pos ≤ random.length) (hc : random.take (length - pos) = chunk) :
    generateLoop signed length (fuel + 1) pos password random =
      generateLoop signed length fuel (pos + (chunk.filter passwordOctet).length)
        (password.take pos ++ chunk.filter passwordOctet ++
          (chunk ++ password.drop length).drop (chunk.filter passwordOctet).length) (random.drop (length - pos)) ∧
    chunk.length = length - pos ∧ pos + (chunk.filter passwordOctet).length ≤ length ∧
    (password.take pos ++ chunk.filter passwordOctet ++
      (chunk ++ password.drop length).drop (chunk.filter passwordOctet).length).length = length + 1 := by
  have hchunk : chunk.length = length - pos := by rw [← hc]; simp [hlen]
  have hj : (chunk.filter passwordOctet).length ≤ length - pos := hchunk ▸ List.length_filter_le _ _
  have hfilter : filterPasswordChars signed (chunk ++ password.drop length) (length - pos) =
      (chunk.filter passwordOctet ++
        (chunk ++ password.drop length).drop (chunk.filter passwordOctet).length,
        (chunk.filter passwordOctet).length) := by
    rw [filterPasswordChars_eq _ _ (by simp [hchunk]), ← hchunk, List.take_left]
  refine ⟨?_, hchunk, by omega, by simp [hbuf, hchunk]; omega⟩
  rw [generateLoop, if_neg hp, makeOctets, if_pos hlen, hc]
  simp only [hfilter, List.append_assoc]
  rw [if_pos (by omega)]

/-- What one turn of the loop does: it takes the next `length - pos` octets, moves those
in range to `password + pos`, and from there the loop can still finish. -/
theorem generateLoop_turn {signed : Bool} {length fuel pos : Nat} {password random : List UInt8}
    (hs : LoopOk length (fuel + 1) pos password random) (hp : pos ≠ length) :
    ∃ chunk rest, random = chunk ++ rest ∧ chunk.length = length - pos ∧
      generateLoop signed length (fuel + 1) pos password random =
        generateLoop signed length fuel (pos + (chunk.filter passwordOctet).length)
          (password.take pos ++ chunk.filter passwordOctet ++
            (chunk ++ password.drop length).drop (chunk.filter passwordOctet).length) rest ∧
      LoopOk length fuel (pos + (chunk.filter passwordOctet).length)
        (password.take pos ++ chunk.filter passwordOctet ++
          (chunk ++ password.drop length).drop (chunk.filter passwordOctet).length) rest := by
  obtain ⟨hle, hbuf, hfuel, henough⟩ := hs
  have hlen : length - pos ≤ random.length := henough.trans (List.length_filter_le _ _)
  obtain ⟨hrun, hchunk, hj, hbuf'⟩ := @generateLoop_step signed _ fuel _ _ _ _ hle hbuf hp hlen rfl
  have hsplit : random.filter passwordOctet = (random.take (length - pos)).filter passwordOctet ++
      (random.drop (length - pos)).filter passwordOctet := by
    rw [← List.filter_append, List.take_append_drop]
  refine ⟨_, _, (List.take_append_drop _ _).symm, hchunk, hrun, hj, hbuf', ?_, ?_⟩
  · simp only [List.length_drop]; omega
  · rw [hsplit, List.length_append] at henough; omega

/-- The chunks the calls of the loop to `krb5_c_random_make_octets` are answered with, from
`at = pos`: each call asks for the `length - at` octets still missing, and `at` then grows
by the octets of its answer in range. -/
def RequestSizes (length : Nat) : Nat → List (List UInt8) → Prop
  | _, [] => True
  | pos, chunk :: chunks => chunk.length = length - pos ∧
      RequestSizes length (pos + (chunk.filter passwordOctet).length) chunks

/-- **Each call of the loop asks for the octets still missing.** From any state with
`at <= length`, a buffer of `length + 1` octets and fuel for the source, whatever the
source holds, the loop is answered with chunks of `length - at` octets, in turn: it ends
once `at = length`, or it fails at the first call that asks for more octets than the
source still holds, leaving them there. -/
theorem generateLoop_requests {signed : Bool} {length : Nat} :
    ∀ {fuel pos : Nat} {password random : List UInt8}, pos ≤ length → password.length = length + 1 →
      random.length ≤ fuel →
      ∃ chunks rest, random = chunks.flatten ++ rest ∧ RequestSizes length pos chunks ∧
        ((pos + (chunks.flatten.filter passwordOctet).length = length ∧
            ∃ p, generateLoop signed length fuel pos password random = some (some p, rest)) ∨
          (pos + (chunks.flatten.filter passwordOctet).length < length ∧
            rest.length < length - (pos + (chunks.flatten.filter passwordOctet).length) ∧
            generateLoop signed length fuel pos password random = some (none, rest)))
  | fuel, pos, password, random, hle, hbuf, hfuel => by
    by_cases hp : pos = length
    · refine ⟨[], random, rfl, trivial, .inl ⟨by simpa using hp, password, ?_⟩⟩
      cases fuel <;> simp [generateLoop, hp]
    cases fuel with
    | zero =>
      obtain rfl : random = [] := List.eq_nil_of_length_eq_zero (by omega)
      exact ⟨[], [], rfl, trivial, .inr ⟨by simp; omega, by simp; omega, by simp [generateLoop, hp]⟩⟩
    | succ fuel =>
      by_cases hlen : length - pos ≤ random.length
      · obtain ⟨hrun, hchunk, hj, hbuf'⟩ := @generateLoop_step signed _ fuel _ _ _ _ hle hbuf hp hlen rfl
        obtain ⟨chunks, rest, hsplit, hsizes, hend⟩ :=
          @generateLoop_requests signed length fuel _ _ (random.drop (length - pos)) hj hbuf'
            (by simp only [List.length_drop]; omega)
        have hcount : pos + ((random.take (length - pos) :: chunks).flatten.filter passwordOctet).length =
            pos + ((random.take (length - pos)).filter passwordOctet).length +
              (chunks.flatten.filter passwordOctet).length := by
          simp only [List.flatten_cons, List.filter_append, List.length_append]; omega
        refine ⟨random.take (length - pos) :: chunks, rest, ?_, ⟨hchunk, hsizes⟩, ?_⟩
        · rw [List.flatten_cons, List.append_assoc, ← hsplit, List.take_append_drop]
        · rw [hcount, hrun]; exact hend
      · refine ⟨[], random, rfl, trivial, .inr ⟨by simp; omega, by simp; omega, ?_⟩⟩
        rw [generateLoop, if_neg hp, makeOctets, if_neg hlen]

/-- The last octet a turn took: when the next turns take nothing, every octet of this
turn's chunk was in range. -/
theorem getLast?_chunk {chunk used : List UInt8} {m : Nat} (hm : chunk.length = m)
    (hall : (chunk.filter passwordOctet).length = m ∨ used ≠ [])
    (hused : ∀ b ∈ used.getLast?, passwordOctet b = true) :
    ∀ b ∈ (chunk ++ used).getLast?, passwordOctet b = true := by
  intro b hb
  rw [List.getLast?_append] at hb
  cases hu : used.getLast? with
  | some c => simp only [hu, Option.or_some, Option.mem_def, Option.some.injEq] at hb; exact hb ▸ hused c hu
  | none =>
    simp only [hu, Option.none_or] at hb
    have hall : (chunk.filter passwordOctet).length = chunk.length := by
      rcases hall with h | h
      · omega
      · exact absurd (List.getLast?_eq_none_iff.mp hu) h
    exact List.filter_length_eq_length.mp hall b (List.mem_of_getLast?_eq_some hb)

/-- **The loop stops right after the last octet in range it needs.** From a state
`LoopOk`, it returns `password[0 .. pos)`, then the next `length - pos` octets in range of
the source, in order, then the buffer's last octet as it was; what it took from the
source has exactly those octets in range and ends with one. -/
theorem generateLoop_eq {signed : Bool} {length : Nat} :
    ∀ {fuel pos : Nat} {password random : List UInt8}, LoopOk length fuel pos password random →
      ∃ used rest, random = used ++ rest ∧ (used.filter passwordOctet).length = length - pos ∧
        (∀ b ∈ used.getLast?, passwordOctet b = true) ∧
        generateLoop signed length fuel pos password random =
          some (some (password.take pos ++ (random.filter passwordOctet).take (length - pos) ++
            password.drop length), rest)
  | fuel, pos, password, random, hs => by
    by_cases hp : pos = length
    · subst hp
      refine ⟨[], random, rfl, by simp, by simp, ?_⟩
      cases fuel <;> simp [generateLoop]
    cases fuel with
    | zero =>
      have := hs.fuel; have := hs.enough; have := hs.le
      simp_all
      omega
    | succ fuel =>
      obtain ⟨chunk, rest₁, hrandom, hchunk, hrun, hs'⟩ := @generateLoop_turn signed _ _ _ _ _ hs hp
      obtain ⟨used, rest, hsplit, hcount, hlast, hloop⟩ := @generateLoop_eq signed _ _ _ _ _ hs'
      have hle := hs.le
      have hbuf := hs.buffer
      have hj : (chunk.filter passwordOctet).length ≤ chunk.length := List.length_filter_le _ _
      have h1 : (password.take pos ++ chunk.filter passwordOctet ++
          (chunk ++ password.drop length).drop (chunk.filter passwordOctet).length).take
          (pos + (chunk.filter passwordOctet).length) = password.take pos ++ chunk.filter passwordOctet :=
        List.take_left' (by simp; omega)
      have h2 : (password.take pos ++ chunk.filter passwordOctet ++
          (chunk ++ password.drop length).drop (chunk.filter passwordOctet).length).drop length =
          password.drop length := by
        rw [List.drop_append_eq_append_drop, List.drop_eq_nil_of_le (by simp; omega),
          List.drop_drop, List.nil_append, List.length_append, List.length_take,
          show (chunk.filter passwordOctet).length + (length - (min pos password.length +
            (chunk.filter passwordOctet).length)) = chunk.length by omega]
        exact List.drop_left' rfl
      have h3 : (random.filter passwordOctet).take (length - pos) = chunk.filter passwordOctet ++
          (rest₁.filter passwordOctet).take (length - (pos + (chunk.filter passwordOctet).length)) := by
        rw [hrandom, List.filter_append, List.take_append_eq_append_take,
          List.take_of_length_le (by omega), show length - pos - (chunk.filter passwordOctet).length =
            length - (pos + (chunk.filter passwordOctet).length) by omega]
      refine ⟨chunk ++ used, rest, by rw [List.append_assoc, ← hsplit, hrandom], ?_, ?_, ?_⟩
      · rw [List.filter_append, List.length_append, hcount]; omega
      · refine getLast?_chunk hchunk ?_ hlast
        by_cases hu : used = []
        · left; subst hu; simp at hcount; omega
        · exact .inr hu
      · rw [hrun, hloop, h1, h2, h3]
        simp only [List.append_assoc]

/-- **`generate_host_password` returns the first `length` octets in range of its source.**
Whatever the buffer held, it takes from the source just the prefix that ends with the
`length`-th octet in `[32, 122]`, its `assert` holds, and it returns those octets, in
order, and a NUL. -/
theorem generateHostPassword_eq (signed : Bool) (length : Nat) (garbage : Nat → UInt8)
    (random : List UInt8) (h : length ≤ (random.filter passwordOctet).length) :
    ∃ used rest, random = used ++ rest ∧ (used.filter passwordOctet).length = length ∧
      (∀ b ∈ used.getLast?, passwordOctet b = true) ∧
      generateHostPassword signed length garbage random =
        some (some ((random.filter passwordOctet).take length ++ [0]), rest) := by
  have hs : LoopOk length random.length 0 ((List.range (length + 1)).map garbage) random :=
    ⟨Nat.zero_le _, by simp, le_refl _, by simpa using h⟩
  obtain ⟨used, rest, hsplit, hcount, hlast, hloop⟩ := @generateLoop_eq signed _ _ _ _ _ hs
  refine ⟨used, rest, hsplit, by simpa using hcount, hlast, ?_⟩
  have hlen : ((random.filter passwordOctet).take length).length = length := by simp [h]
  rw [generateHostPassword, hloop, List.take_zero, List.nil_append, Nat.sub_zero]
  simp only [Option.map_some', Option.map_some', Prod.mk.injEq, and_true]
  have hdrop : ((List.range (length + 1)).map garbage).drop length = [garbage length] := by
    rw [List.range_succ, List.map_append, List.drop_left' (by simp)]
    rfl
  rw [hdrop, List.set_append_right _ _ hlen.le, hlen, Nat.sub_self]
  rfl

/-- Whatever the source holds, `generate_host_password` is answered with chunks of the
`length - at` octets still missing, in turn, and returns once it has `length` octets in
range, or fails at the first call the source cannot answer. -/
theorem generateHostPassword_requests (signed : Bool) (length : Nat) (garbage : Nat → UInt8)
    (random : List UInt8) :
    ∃ chunks rest, random = chunks.flatten ++ rest ∧ RequestSizes length 0 chunks ∧
      (((chunks.flatten.filter passwordOctet).length = length ∧
          ∃ p, generateHostPassword signed length garbage random = some (some p, rest)) ∨
        ((chunks.flatten.filter passwordOctet).length < length ∧
          rest.length < length - (chunks.flatten.filter passwordOctet).length ∧
          generateHostPassword signed length garbage random = some (none, rest))) := by
  obtain ⟨chunks, rest, hsplit, hsizes, hend⟩ := @generateLoop_requests signed length random.length 0
    ((List.range (length + 1)).map garbage) random (Nat.zero_le _) (by simp) le_rfl
  simp only [Nat.zero_add] at hend
  refine ⟨chunks, rest, hsplit, hsizes, ?_⟩
  rcases hend with ⟨hc, p, hp⟩ | ⟨hc, hr, hp⟩
  · exact .inl ⟨hc, _, by rw [generateHostPassword, hp]; rfl⟩
  · exact .inr ⟨hc, hr, by rw [generateHostPassword, hp]; rfl⟩

/-- The generated password and the filter it rests on. `filter_password_chars` compacts
any buffer to its octets in `[32, 122]`, in order, leaves the rest of the buffer as it
was, and counts them, whether `char` is signed or not; `generate_host_password`, given a
source that holds `length` octets in range, takes from it exactly the prefix ending with
the `length`-th of them, never fails its `assert`, and returns them and a NUL; and on any
source each of its calls to `krb5_c_random_make_octets` asks for the `length - at` octets
still missing. -/
theorem generateHostPassword_correct :
    (∀ signed (password : List UInt8), filterPasswordChars signed password password.length =
      (password.filter passwordOctet ++ password.drop (password.filter passwordOctet).length,
        (password.filter passwordOctet).length)) ∧
    (∀ signed length garbage (random : List UInt8), length ≤ (random.filter passwordOctet).length →
      ∃ used rest, random = used ++ rest ∧ (used.filter passwordOctet).length = length ∧
        (∀ b ∈ used.getLast?, passwordOctet b = true) ∧
        generateHostPassword signed length garbage random =
          some (some ((random.filter passwordOctet).take length ++ [0]), rest)) ∧
    ∀ signed length garbage (random : List UInt8),
      ∃ chunks rest, random = chunks.flatten ++ rest ∧ RequestSizes length 0 chunks ∧
        (((chunks.flatten.filter passwordOctet).length = length ∧
            ∃ p, generateHostPassword signed length garbage random = some (some p, rest)) ∨
          ((chunks.flatten.filter passwordOctet).length < length ∧
            rest.length < length - (chunks.flatten.filter passwordOctet).length ∧
            generateHostPassword signed length garbage random = some (none, rest))) :=
  ⟨fun signed password => by simpa using filterPasswordChars_eq signed password (le_refl _),
    generateHostPassword_eq, generateHostPassword_requests⟩

/-- The spec's scenario S6: from `0x1F, 'A', 0x7F, 'B'` a two-octet password is `"AB"`. -/
theorem generateHostPassword_correct_s6 :
    2 ≤ (([0x1F, 65, 0x7F, 66] : List UInt8).filter passwordOctet).length ∧
      ∃ used rest, ([0x1F, 65, 0x7F, 66] : List UInt8) = used ++ rest ∧
        (used.filter passwordOctet).length = 2 ∧ (∀ b ∈ used.getLast?, passwordOctet b = true) ∧
        generateHostPassword true 2 (fun _ => 0) [0x1F, 65, 0x7F, 66] =
          some (some ((([0x1F, 65, 0x7F, 66] : List UInt8).filter passwordOctet).take 2 ++ [0]), rest) :=
  ⟨by decide, generateHostPassword_correct.2.1 true 2 (fun _ => 0) _ (by decide)⟩

end Adcli

import Mathlib
import Scratchpad.CommandLine.World

/-!
# What commands read

A command is the same computation in every monad in which something can be read.  Where reading
does nothing else than to leave a note, all that the computation does is to read some sources and
to return its result.

* `inputText` — the input of a command.
* `noting` — reading, with a note of what is read.
* `Does` — a computation that reads sources and returns its result.
* `Does.bind_ok`, `Does.bind_error` — one computation after another.
* `Does.readSource`, `Does.readInput`, `Does.lift` — the parts of a command.
* `Does.run_eq_ok_iff`, `run_bind_eq_ok_iff` — computations that succeed.
* `World.read_eq_ok_iff` — what can be read in a world.
-/

namespace Scratchpad.CommandLine

/-- The input of a command: the argument, or else standard input. -/
def inputText (read : Source → Except ReadError String) :
    (given : Option String) → Except ReadError String
  | some text => .ok text
  | none => read .standardInput

/-- What is read for the input. -/
def inputSource? (given : Option String) : Option Source :=
  if given.isSome then none else some .standardInput

/-! ## What a computation does -/

section

variable {m : Type → Type} [Monad m] (note : Source → m Unit)
  (read : Source → Except ReadError String)

/-- Reading, with a note of what is read. -/
def noting (source : Source) : m (Except ReadError String) := do
  note source
  return read source

/-- A computation reads sources, one after the other, and does nothing else than to return its
result. -/
def Does {α : Type} (x : ExceptT CommandError m α) (sources : List Source)
    (result : Except CommandError α) : Prop :=
  x.run = do
    sources.forM note
    return result

variable [LawfulMonad m] {note read} {α β : Type} {x : ExceptT CommandError m α}
  {f : α → ExceptT CommandError m β} {a : α} {e : CommandError}
  {result : Except CommandError β} {sources more : List Source}

lemma Does.pure (a : α) : Does note (Pure.pure a) [] (.ok a) := by
  simp [Does]

lemma Does.throw (e : CommandError) :
    Does note (MonadExcept.throw e : ExceptT CommandError m α) [] (.error e) := by
  simp [Does]

lemma Does.bind_error (hx : Does note x sources (.error e)) :
    Does note (x >>= f) sources (.error e) := by
  rw [Does] at *
  rw [ExceptT.run_bind, hx]
  simp

lemma Does.bind_ok (hx : Does note x sources (.ok a)) (hf : Does note (f a) more result) :
    Does note (x >>= f) (sources ++ more) result := by
  rw [Does] at *
  rw [ExceptT.run_bind, hx]
  simp [hf]

lemma Does.readSource (source : Source) :
    Does note (readSource (noting note read) source) [source]
      ((read source).mapError (.unreadable source)) := by
  rw [Does, CommandLine.readSource]
  cases h : read source <;> simp [noting, h, Except.mapError, Except.map]

lemma Does.readInput (given : Option String) :
    Does note (readInput (noting note read) given) (inputSource? given).toList
      ((inputText read given).mapError (.unreadable .standardInput)) := by
  cases given with
  | some text => exact Does.pure text
  | none => exact Does.readSource .standardInput

lemma Does.lift (result : Except Error α) :
    Does note (lift result) [] (result.mapError .failed) := by
  cases result with
  | ok a => exact Does.pure a
  | error e => exact Does.throw _

end

/-! ## Without notes -/

section

variable {α β : Type} {x : ExceptT CommandError Id α} {f : α → ExceptT CommandError Id β} {a : α}
  {b : β} {read : Source → Except ReadError String}

/-- Without notes, nothing but the result is left. -/
lemma Does.run_run {sources : List Source} {result : Except CommandError α}
    (h : Does (fun _ => Pure.pure ()) x sources result) : x.run.run = result := by
  have hnotes : ∀ sources : List Source,
      sources.forM (fun _ => (Pure.pure () : Id Unit)) = Pure.pure () := by
    intro sources
    induction sources with
    | nil => rfl
    | cons source sources ih => exact ih
  rw [h, hnotes]
  rfl

lemma mapError_eq_ok_iff {ε δ : Type} {f : ε → δ} {x : Except ε α} :
    x.mapError f = .ok a ↔ x = .ok a := by
  cases x <;> simp [Except.mapError]

/-- A computation succeeds if what it stands for does. -/
lemma Does.run_eq_ok_iff {ε : Type} {f : ε → CommandError} {sources : List Source}
    {result : Except ε α} (h : Does (fun _ => Pure.pure ()) x sources (result.mapError f)) :
    x.run.run = .ok a ↔ result = .ok a := by
  rw [h.run_run, mapError_eq_ok_iff]

lemma run_readSource_eq_ok_iff {source : Source} {text : String} :
    (readSource (m := Id) read source).run.run = .ok text ↔ read source = .ok text :=
  (Does.readSource source).run_eq_ok_iff

lemma run_readInput_eq_ok_iff {given : Option String} {text : String} :
    (readInput (m := Id) read given).run.run = .ok text ↔ inputText read given = .ok text :=
  (Does.readInput given).run_eq_ok_iff

lemma run_lift_eq_ok_iff {result : Except Error α} :
    (lift (m := Id) result).run.run = .ok a ↔ result = .ok a :=
  (Does.lift result).run_eq_ok_iff

/-- A computation succeeds if both of its parts do. -/
lemma run_bind_eq_ok_iff :
    (x >>= f).run.run = .ok b ↔ ∃ a, x.run.run = .ok a ∧ (f a).run.run = .ok b := by
  rw [ExceptT.run_bind, Id.run_bind]
  cases hx : x.run.run <;> simp

end

/-! ## What a world holds -/

namespace World

/-- The bytes of a source, unless it is missing.  No file lies where a path begins at the root or
leads to a directory. -/
def bytes? (w : World) : Source → Option ByteArray
  | .standardInput => some w.standardInput
  | .file path =>
    if (path.toList.head? = some '/' && !(pathSteps path).isEmpty) || wantsDirectory path then none
    else (w.files.find? fun f => pathSteps f.1 == pathSteps path).map (·.2)

lemma decode_eq_ok_iff {bytes : ByteArray} {text : String} :
    decode bytes = .ok text ↔ String.fromUTF8? bytes = some text := by
  rw [decode]
  cases String.fromUTF8? bytes <;> simp

/-- **A source can be read** exactly if it is there and is valid UTF-8. -/
theorem read_eq_ok_iff {w : World} {source : Source} {text : String} :
    w.read source = .ok text ↔ (w.bytes? source).bind String.fromUTF8? = some text := by
  cases source with
  | standardInput => exact decode_eq_ok_iff
  | file path =>
      rw [read, readFile, bytes?]
      by_cases habsolute : path.toList.head? = some '/' && !(pathSteps path).isEmpty
      · simp [habsolute]
      · cases hfile : w.files.find? fun f => pathSteps f.1 == pathSteps path with
        | none =>
            dsimp only
            rw [if_neg habsolute]
            split_ifs <;> simp
        | some f =>
            by_cases hdirectory : wantsDirectory path
            · simp [habsolute, hdirectory]
            · simp [habsolute, hdirectory, decode_eq_ok_iff]

end World

end Scratchpad.CommandLine

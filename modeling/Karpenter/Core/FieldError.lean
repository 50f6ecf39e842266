import Mathlib.Data.List.Chain
import Mathlib.Data.String.Basic

/-! Knative's `apis.FieldError` as the validation code uses it. An error is kept as the list of
its leaf errors, the form knative flattens it to when it prints it: `Also` collects errors,
`ViaField` puts every path under the field it was reached through. Knative joins the field and
the path with `flatten`, which splits them at every `.`, drops the empty pieces and glues an
index such as `[0]` to the piece before it: so a path is not always the field, a dot and the old
path, but it is whenever no piece of the old path is empty or an index (`flatten_field`). -/

namespace Karpenter.Apis

/-- One leaf error: its message and the field paths it names. -/
structure FieldError where
  message : String
  paths : List String
  deriving DecidableEq, Repr

/-- A `*apis.FieldError` as its leaf errors; `nil` is the empty list. -/
abbrev FieldErrors := List FieldError

/-- `errs.Also(more...)`: the errors of all of them, none dropped. -/
def FieldErrors.also (errs : FieldErrors) (more : List FieldErrors) : FieldErrors :=
  errs ++ more.flatten

/-- `CurrentField`: the empty piece, which names the field itself. -/
def currentField : String := ""

/-- `isIndex`: `strings.HasPrefix(part, "[") && strings.HasSuffix(part, "]")`, a one-character
prefix and suffix being the first and the last character. -/
def isIndex (part : String) : Bool :=
  part.data.head? == some '[' && part.data.getLast? == some ']'

/-- One piece through `flatten`'s loop, with `newPath` kept last piece first: the current field is
skipped, an index is glued to the piece before it, and any other piece is appended. -/
def flattenPiece (newPath : List String) (p : String) : List String :=
  if p = currentField then newPath
  else match newPath with
    | last :: rest => if isIndex p then (last ++ p) :: rest else p :: last :: rest
    | [] => [p]

/-- `flatten(path)`: the pieces of every part, cut by `strings.Split(part, ".")` (at every `.`,
as `String.split` cuts), through the loop, joined with `.`. -/
def flatten (path : List String) : String :=
  ".".intercalate ((path.flatMap fun part => part.split (· == '.')).foldl flattenPiece []).reverse

/-- `ViaField(field)`: every path `p` becomes `flatten([field, p])`. -/
def FieldErrors.viaField (errs : FieldErrors) (field : String) : FieldErrors :=
  errs.map fun e => { e with paths := e.paths.map fun oldPath => flatten [field, oldPath] }

/-- Every path the errors name. -/
def FieldErrors.paths (errs : FieldErrors) : List String := errs.flatMap FieldError.paths

@[simp] theorem FieldErrors.also_eq_nil (errs : FieldErrors) (more : List FieldErrors) :
    errs.also more = [] ↔ errs = [] ∧ ∀ e ∈ more, e = [] := by
  simp [FieldErrors.also]

@[simp] theorem FieldErrors.viaField_eq_nil (errs : FieldErrors) (field : String) :
    errs.viaField field = [] ↔ errs = [] := by
  simp [FieldErrors.viaField]

/-- No `.` is followed by another `.` or by `[`. -/
def DotsPlain (cs : List Char) : Prop := cs.Chain' fun a b => a = '.' → b ≠ '.' ∧ b ≠ '['

/-- `DotsPlain`, decided pair by pair so that `decide` runs it. -/
def decDotsPlain : ∀ cs : List Char, Decidable (DotsPlain cs)
  | [] => isTrue List.chain'_nil
  | [a] => isTrue (List.chain'_singleton a)
  | a :: b :: cs =>
    haveI := decDotsPlain (b :: cs)
    decidable_of_iff ((a = '.' → b ≠ '.' ∧ b ≠ '[') ∧ DotsPlain (b :: cs))
      (List.chain'_cons (R := fun a b : Char => a = '.' → b ≠ '.' ∧ b ≠ '[')).symm

instance (cs : List Char) : Decidable (DotsPlain cs) := decDotsPlain cs

end Karpenter.Apis

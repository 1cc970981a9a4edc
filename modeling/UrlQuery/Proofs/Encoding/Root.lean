import UrlQuery.Proofs.Encoding.Sequence
import UrlQuery.Proofs.Params.Parse
import UrlQuery.Proofs.Text.Digits

/-!
# Roots that are refused

A root that is a scalar or encodes itself is refused by the kind of its type, and nothing is
written. No other root is, whatever it holds: a refusal is the first step of a walk or none.

Integers that 64 bits cannot hold are the exception. They are text to an encoding, so as roots they
are read as a query string, which is one key without a value (`encodeInto_unsupportedKind`).
-/

namespace UrlQuery

namespace Value

/-- The kind of a value by its type, behind all pointers. An integer is one whatever its size. -/
def typeKind : Value → Kind
  | int _ => .int
  | uint _ => .uint
  | pointer _ v => v.typeKind
  | v => v.kind

/-- The digits of an integer that 64 bits cannot hold, behind all pointers. -/
def wideDigits? : Value → Option String
  | int n => if fitsSigned n then none else some (toString n)
  | uint n => if fitsUnsigned n then none else some (toString n)
  | pointer _ v => v.wideDigits?
  | _ => none

/-- Any other value is of the kind of its type. -/
theorem kind_eq_typeKind : ∀ value : Value, value.wideDigits? = none → value.kind = value.typeKind
  | .int n, h => by
    cases hn : fitsSigned n with
    | true => rw [kind, hn, typeKind, if_pos rfl]
    | false => simp [wideDigits?, hn] at h
  | .uint n, h => by
    cases hn : fitsUnsigned n with
    | true => rw [kind, hn, typeKind, if_pos rfl]
    | false => simp [wideDigits?, hn] at h
  | .pointer _ value, h => by
    rw [wideDigits?] at h
    exact kind_eq_typeKind value h
  | .absent _, _ | .bool _, _ | .single _, _ | .double _, _ | .char _, _ | .text _, _ | .bytes _, _
  | .time _, _ | .seq _, _ | .map _, _ | .struct _, _ | .custom _ _, _ => rfl

/-! ## Digits -/

theorem isPlain_of_mem_natDigits {n : Nat} {c : Char} (h : c ∈ (toString n).toList) :
    Form.isPlain c = true := by
  have hdigit := isDigit_of_mem_natDigits h
  have heq : Form.isPlain c
      = (c.isAlpha || c.isDigit || c == '-' || c == '_' || c == '.' || c == '~') := rfl
  simp [heq, hdigit]

theorem isPlain_of_mem_intDigits {n : Int} {c : Char} (h : c ∈ (toString n).toList) :
    Form.isPlain c = true := by
  cases n with
  | ofNat m => exact isPlain_of_mem_natDigits h
  | negSucc m =>
    have hsign : toString (Int.negSucc m) = "-" ++ toString (m + 1) := rfl
    rw [hsign, String.toList_append, List.mem_append] at h
    rcases h with h | h
    · rw [show c = '-' by simpa using h]
      decide
    · exact isPlain_of_mem_natDigits h

theorem intDigits_ne_empty (n : Int) : toString n ≠ "" := by
  cases n with
  | ofNat m => exact natDigits_ne_empty m
  | negSucc m =>
    have hsign : toString (Int.negSucc m) = "-" ++ toString (m + 1) := rfl
    simp [hsign]

/-- As a query string, the digits of an integer are a key without a value. -/
theorem parse_wideDigits {digits : String} :
    ∀ value : Value, value.wideDigits? = some digits →
      Params.parse digits = Params.empty.add digits ""
  | .int n, h => by
    cases hn : fitsSigned n with
    | true => simp [wideDigits?, hn] at h
    | false =>
      obtain rfl : toString n = digits := by simpa [wideDigits?, hn] using h
      exact Params.parse_of_isPlain (intDigits_ne_empty n) fun _ => isPlain_of_mem_intDigits
  | .uint n, h => by
    cases hn : fitsUnsigned n with
    | true => simp [wideDigits?, hn] at h
    | false =>
      obtain rfl : toString n = digits := by simpa [wideDigits?, hn] using h
      exact Params.parse_of_isPlain (natDigits_ne_empty n) fun _ => isPlain_of_mem_natDigits
  | .pointer _ value, h => by
    rw [wideDigits?] at h
    exact parse_wideDigits value h

end Value

namespace Encoding

/-! ## Roots -/

theorem outcome_querySteps (limit : Nat) (bytes : List UInt8) (p : Params) :
    outcome limit (querySteps bytes) p = (.ok (), p.merge (Params.parseBytes bytes)) := by
  rw [outcome, runSteps_querySteps]
  rfl

/-- An integer that 64 bits cannot hold is read as a query string. -/
theorem rootSteps_of_wideDigits (join : ScopeJoin) {digits : String} :
    ∀ value : Value, value.wideDigits? = some digits →
      rootSteps join value = querySteps (Utf8.encode digits)
  | .int n, h => by
    cases hn : Value.fitsSigned n with
    | true => simp [Value.wideDigits?, hn] at h
    | false =>
      obtain rfl : toString n = digits := by simpa [Value.wideDigits?, hn] using h
      simp [rootSteps, hn]
  | .uint n, h => by
    cases hn : Value.fitsUnsigned n with
    | true => simp [Value.wideDigits?, hn] at h
    | false =>
      obtain rfl : toString n = digits := by simpa [Value.wideDigits?, hn] using h
      simp [rootSteps, hn]
  | .pointer _ value, h => by
    rw [Value.wideDigits?] at h
    exact rootSteps_of_wideDigits join value h

theorem encodeInto_of_wideDigits (config : Config) {value : Value} {digits : String}
    (h : value.wideDigits? = some digits) (p : Params) :
    value.encodeInto config p = (.ok (), p.add digits "") := by
  rw [Value.encodeInto_eq, rootSteps_of_wideDigits _ value h, outcome_querySteps, ← Params.parse,
    Value.parse_wideDigits value h, p.add_eq_merge]

theorem encodeInto_of_not_isRoot (config : Config) {value : Value} (h : value.kind.isRoot = false)
    (p : Params) : value.encodeInto config p = (.error (.unsupportedKind value.kind), p) := by
  rw [Value.encodeInto_eq, rootSteps_of_not_isRoot _ value h, outcome_refuse]

/-- No step of a walk through a root is a refusal. -/
theorem encodeInto_ne_unsupportedKind (config : Config) {value : Value}
    (h : value.kind.isRoot = true) (p left : Params) (kind : Kind) :
    value.encodeInto config p ≠ (.error (.unsupportedKind kind), left) := by
  intro herror
  obtain ⟨before, step, after, q, hsteps, -, hfails⟩ := encodeInto_eq_error_iff.1 herror
  have hwithin : step.Within value.encoders := within_rootSteps config.scopeJoin value h step
    (hsteps ▸ List.mem_append_right _ List.mem_cons_self)
  cases step with
  | refuse _ => exact hwithin
  | custom encoder key => exact nomatch hfails.choose_spec.2
  | enter scope level => cases hfails.2.1
  | write _ _ | leave => exact hfails

end Encoding

open Encoding

/--
**Scalars are refused as roots, and so are values that encode themselves.**

* Such a root is refused by the kind of its type and nothing is written, unless it is an integer
  that 64 bits cannot hold.
* Such an integer is encoded: its digits become a key with the empty value.
* No other root is refused, whatever stands in it.
-/
theorem Value.encodeInto_unsupportedKind (config : Config) (value : Value) (p : Params) :
    (value.typeKind.isRoot = false → value.wideDigits? = none →
      value.encodeInto config p = (.error (.unsupportedKind value.typeKind), p)) ∧
    (∀ digits, value.wideDigits? = some digits →
      value.encodeInto config p = (.ok (), p.add digits "")) ∧
    (value.typeKind.isRoot = true →
      ∀ kind left, value.encodeInto config p ≠ (.error (.unsupportedKind kind), left)) := by
  refine ⟨fun hroot hnarrow => ?_, fun _ h => encodeInto_of_wideDigits config h p, ?_⟩
  · rw [← kind_eq_typeKind value hnarrow] at hroot ⊢
    exact encodeInto_of_not_isRoot config hroot p
  · intro hroot kind left
    cases hwide : value.wideDigits? with
    | none =>
      rw [← kind_eq_typeKind value hwide] at hroot
      exact encodeInto_ne_unsupportedKind config hroot p left kind
    | some digits =>
      rw [encodeInto_of_wideDigits config hwide]
      nofun

/-- A boolean behind pointers, the least integer that 64 bits cannot hold, and scalars in a map. -/
theorem Value.encodeInto_unsupportedKind_each :
    let flag := Value.pointer .present (.pointer .boxed (.bool true))
    let wide := Value.pointer .reference (.uint 18446744073709551616)
    let flags := Value.map [(.text "a", .seq [.bool false, .char 'b'])]
    let p := Params.ofPairs [("a", "1")]
    (flag.typeKind.isRoot = false ∧ flag.wideDigits? = none ∧
      flag.encodeInto {} p = (.error (.unsupportedKind .bool), p)) ∧
    (wide.wideDigits? = some "18446744073709551616" ∧
      wide.encodeInto {} p = (.ok (), p.add "18446744073709551616" "")) ∧
    (flags.typeKind.isRoot = true ∧
      ∀ kind left, flags.encodeInto {} p ≠ (.error (.unsupportedKind kind), left)) := by
  intro flag wide flags p
  exact ⟨⟨rfl, rfl, (encodeInto_unsupportedKind {} flag p).1 rfl rfl⟩,
    ⟨rfl, (encodeInto_unsupportedKind {} wide p).2.1 _ rfl⟩,
    ⟨rfl, (encodeInto_unsupportedKind {} flags p).2.2 rfl⟩⟩

/-- An integer root that is not refused. -/
theorem Value.encodeInto_wide_integer :
    (Value.int 9223372036854775808).typeKind = .int ∧ Kind.int.isRoot = false ∧
      (Value.int 9223372036854775808).encodeInto {} Params.empty
        = (.ok (), Params.empty.add "9223372036854775808" "") :=
  ⟨rfl, rfl, encodeInto_of_wideDigits {} rfl _⟩

end UrlQuery

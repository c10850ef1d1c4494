import Mathlib.Algebra.Group.Int.Defs
import Mathlib.Data.List.Basic
import Mathlib.Data.String.Basic

/-!
# JSON values

A JSON value as nlohmann's library holds it in memory: numbers are kept by their kind, the members of
an object by their keys in order. The conversions are those that its `get` is documented to make; one
that it answers with an exception gives nothing.
-/

namespace Framework

/-- Of a floating-point number only its conversion to `int` is kept. -/
inductive Json
  | null
  | boolean (b : Bool)
  | unsigned (n : Nat)
  | integer (n : Int)
  | float (asInt : Int)
  | string (s : String)
  | array (elements : List Json)
  | object (members : List (String × Json))

namespace Json

/-- `get<int>`: numbers of every kind and booleans convert, by a `static_cast` to 32 bits. -/
def getInt : Json → Option Int
  | boolean b => some (if b then 1 else 0)
  | unsigned n => some (BitVec.ofNat 32 n).toInt
  | integer n => some (BitVec.ofInt 32 n).toInt
  | float asInt => some asInt
  | _ => none

/-- The value of a whole number, as the text gives it. A number with a point or an exponent, as 5.0, is
not counted as whole. -/
def getInteger : Json → Option Int
  | unsigned n => some n
  | integer n => some n
  | _ => none

def getBoolean : Json → Option Bool
  | boolean b => some b
  | _ => none

def getString : Json → Option String
  | string s => some s
  | _ => none

/-- The value under a key; only an object `contains` any. -/
def member (key : String) : Json → Option Json
  | object members => members.lookup key
  | _ => none

/-- `data[key] = value`. The library keeps the members in a `std::map`, ordered by their keys. -/
def setMember (key : String) (value : Json) : List (String × Json) → List (String × Json)
  | [] => [(key, value)]
  | (k, v) :: members =>
      if key < k then (key, value) :: (k, v) :: members
      else if key = k then (key, value) :: members
      else (k, v) :: setMember key value members

private theorem lookup_cons_eq_ite (k k' : String) (v : Json) (members : List (String × Json)) :
    ((k, v) :: members).lookup k' = if k' = k then some v else members.lookup k' := by
  rw [List.lookup_cons]
  by_cases h : k' = k
  · rw [beq_iff_eq.mpr h, if_pos h]
  · rw [beq_eq_false_iff_ne.mpr h, if_neg h]

theorem lookup_setMember (key k' : String) (value : Json) (members : List (String × Json)) :
    (setMember key value members).lookup k' =
      if k' = key then some value else members.lookup k' := by
  induction members with
  | nil => exact lookup_cons_eq_ite key k' value []
  | cons m members ih =>
      obtain ⟨k, v⟩ := m
      rw [setMember]
      split
      · exact lookup_cons_eq_ite key k' value _
      · split
        case isTrue hkey =>
            subst hkey
            rw [lookup_cons_eq_ite, lookup_cons_eq_ite]
            by_cases h : k' = key
            · rw [if_pos h, if_pos h]
            · rw [if_neg h, if_neg h, if_neg h]
        case isFalse hkey =>
            rw [lookup_cons_eq_ite, lookup_cons_eq_ite, ih]
            by_cases h : k' = key
            · rw [h, if_neg hkey, if_pos rfl, if_pos rfl]
            · rw [if_neg h, if_neg h]

@[simp] theorem member_object_setMember (key k' : String) (value : Json)
    (members : List (String × Json)) :
    (object (setMember key value members)).member k' =
      if k' = key then some value else (object members).member k' :=
  lookup_setMember key k' value members

theorem getInt_unsigned {n : Nat} (h : n < 2 ^ 31) : (unsigned n).getInt = some (n : Int) := by
  rw [getInt, BitVec.toInt_eq_toNat_of_lt]
  · rw [BitVec.toNat_ofNat, Nat.mod_eq_of_lt (by omega)]
  · rw [BitVec.toNat_ofNat]
    omega

theorem getInt_of_getInteger {v : Json} {n : Int} (h : v.getInteger = some n)
    (hlow : -2 ^ 31 ≤ n) (hhigh : n < 2 ^ 31) : v.getInt = some n := by
  cases v with
  | unsigned m =>
      rw [getInteger, Option.some.injEq] at h
      rw [← h]
      exact getInt_unsigned (by omega)
  | integer m =>
      rw [getInteger, Option.some.injEq] at h
      rw [getInt, h, BitVec.toInt_ofInt, Int.bmod_eq_of_le (by omega) (by omega)]
  | null | boolean b | float m | string s | array elements | object members => cases h

end Json

end Framework

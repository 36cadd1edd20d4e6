/-
The numbers and the keys of JSON values.

`substNumbers` puts a value in the place of every number, which is how a type of numbers is
left for another.  `DistinctKeys` is what makes a value one of JavaScript's: there an object
has a key once.
-/
import Veridian.Lib.Json

namespace Veridian.Json

variable {L M N : Type}

mutual

/-- The value with each of its numbers replaced. -/
def substNumbers (f : M → Json N) : Json M → Json N
  | .null => .null
  | .bool b => .bool b
  | .num m => f m
  | .str s => .str s
  | .arr l => .arr (substElements f l)
  | .obj members => .obj (substMembers f members)

def substElements (f : M → Json N) : List (Json M) → List (Json N)
  | [] => []
  | v :: vs => substNumbers f v :: substElements f vs

def substMembers (f : M → Json N) : List (String × Json M) → List (String × Json N)
  | [] => []
  | (k, v) :: ms => (k, substNumbers f v) :: substMembers f ms

end

mutual

/-- No object in the value has a key twice. -/
def DistinctKeys : Json N → Prop
  | .arr l => DistinctElements l
  | .obj members => (members.map Prod.fst).Nodup ∧ DistinctMembers members
  | _ => True

def DistinctElements : List (Json N) → Prop
  | [] => True
  | v :: vs => DistinctKeys v ∧ DistinctElements vs

def DistinctMembers : List (String × Json N) → Prop
  | [] => True
  | (_, v) :: ms => DistinctKeys v ∧ DistinctMembers ms

end

theorem substMembers_keys (f : M → Json N) :
    ∀ ms : List (String × Json M), (substMembers f ms).map Prod.fst = ms.map Prod.fst := by
  intro ms
  induction ms with
  | nil => rfl
  | cons member ms ih => exact congrArg (member.1 :: ·) ih

mutual

/-- Every number in the value is one of `p`. -/
def AllNumbers (p : N → Prop) : Json N → Prop
  | .num n => p n
  | .arr l => AllElements p l
  | .obj members => AllMembers p members
  | _ => True

def AllElements (p : N → Prop) : List (Json N) → Prop
  | [] => True
  | v :: vs => AllNumbers p v ∧ AllElements p vs

def AllMembers (p : N → Prop) : List (String × Json N) → Prop
  | [] => True
  | (_, v) :: ms => AllNumbers p v ∧ AllMembers p ms

end

/-! ### Replacing twice -/

section

variable (f : L → Json M) (g : M → Json N)

mutual

theorem substNumbers_substNumbers : ∀ v : Json L,
    substNumbers g (substNumbers f v) = substNumbers (fun n => substNumbers g (f n)) v
  | .null => rfl
  | .bool _ => rfl
  | .num _ => rfl
  | .str _ => rfl
  | .arr l => congrArg Json.arr (substElements_substElements l)
  | .obj members => congrArg Json.obj (substMembers_substMembers members)

theorem substElements_substElements : ∀ l : List (Json L),
    substElements g (substElements f l) = substElements (fun n => substNumbers g (f n)) l
  | [] => rfl
  | v :: vs => by
      simp only [substElements, substNumbers_substNumbers v, substElements_substElements vs]

theorem substMembers_substMembers : ∀ l : List (String × Json L),
    substMembers g (substMembers f l) = substMembers (fun n => substNumbers g (f n)) l
  | [] => rfl
  | (k, v) :: ms => by
      simp only [substMembers, substNumbers_substNumbers v, substMembers_substMembers ms]

end

end

/-! ### Replacing nothing -/

mutual

/-- **A value stays as it is** when each of its numbers does. -/
theorem substNumbers_eq_self_iff (f : N → Json N) : ∀ v : Json N,
    substNumbers f v = v ↔ AllNumbers (fun n => f n = .num n) v
  | .null => by simp [substNumbers, AllNumbers]
  | .bool _ => by simp [substNumbers, AllNumbers]
  | .num _ => by simp [substNumbers, AllNumbers]
  | .str _ => by simp [substNumbers, AllNumbers]
  | .arr l => by simp [substNumbers, AllNumbers, substElements_eq_self_iff f l]
  | .obj members => by simp [substNumbers, AllNumbers, substMembers_eq_self_iff f members]

theorem substElements_eq_self_iff (f : N → Json N) : ∀ l : List (Json N),
    substElements f l = l ↔ AllElements (fun n => f n = .num n) l
  | [] => by simp [substElements, AllElements]
  | v :: vs => by
      simp [substElements, AllElements, substNumbers_eq_self_iff f v,
        substElements_eq_self_iff f vs]

theorem substMembers_eq_self_iff (f : N → Json N) : ∀ l : List (String × Json N),
    substMembers f l = l ↔ AllMembers (fun n => f n = .num n) l
  | [] => by simp [substMembers, AllMembers]
  | (k, v) :: ms => by
      simp [substMembers, AllMembers, substNumbers_eq_self_iff f v,
        substMembers_eq_self_iff f ms]

end

/-! ### Keys -/

mutual

theorem distinctKeys_substNumbers {f : M → Json N} (h : ∀ m, DistinctKeys (f m)) :
    ∀ v : Json M, DistinctKeys v → DistinctKeys (substNumbers f v)
  | .null, _ => trivial
  | .bool _, _ => trivial
  | .num m, _ => h m
  | .str _, _ => trivial
  | .arr l, hv => distinctElements_substElements h l hv
  | .obj members, hv =>
      ⟨(substMembers_keys f members).symm ▸ hv.1, distinctMembers_substMembers h members hv.2⟩

theorem distinctElements_substElements {f : M → Json N} (h : ∀ m, DistinctKeys (f m)) :
    ∀ l : List (Json M), DistinctElements l → DistinctElements (substElements f l)
  | [], _ => trivial
  | v :: vs, hl => ⟨distinctKeys_substNumbers h v hl.1, distinctElements_substElements h vs hl.2⟩

theorem distinctMembers_substMembers {f : M → Json N} (h : ∀ m, DistinctKeys (f m)) :
    ∀ l : List (String × Json M), DistinctMembers l → DistinctMembers (substMembers f l)
  | [], _ => trivial
  | (_, v) :: ms, hl =>
      ⟨distinctKeys_substNumbers h v hl.1, distinctMembers_substMembers h ms hl.2⟩

end

end Veridian.Json

import ClassLayout.Text.Basic

namespace ClassLayout

/-- A place below some root: the names on the way to it, innermost first, and how many they are.
Places of different depth are told apart by the number alone. -/
structure Place where
  depth : Nat
  innermostFirst : List Text
  depth_eq : depth = innermostFirst.length
  deriving DecidableEq

namespace Place

def root : Place := ⟨0, [], rfl⟩

def child (p : Place) (name : Text) : Place :=
  ⟨p.depth + 1, name :: p.innermostFirst, by simp [p.depth_eq]⟩

def parent (p : Place) : Place :=
  ⟨p.depth - 1, p.innermostFirst.tail, by simp [p.depth_eq]⟩

def toList (p : Place) : List Text := p.innermostFirst.reverse

def ofList (names : List Text) : Place := names.foldl child root

@[simp] theorem parent_child (p : Place) (name : Text) : (p.child name).parent = p := rfl

theorem child_injective (p : Place) {name name' : Text} (h : p.child name = p.child name') :
    name = name' :=
  (List.cons.inj (congrArg innermostFirst h)).1

@[simp] theorem toList_root : root.toList = [] := rfl

@[simp] theorem toList_child (p : Place) (name : Text) :
    (p.child name).toList = p.toList ++ [name] := by
  simp [toList, child]

theorem toList_injective {p q : Place} (h : p.toList = q.toList) : p = q := by
  obtain ⟨_, _, rfl⟩ := p
  obtain ⟨_, _, rfl⟩ := q
  simp_all [toList]

theorem toList_foldl_child (names : List Text) (p : Place) :
    (names.foldl child p).toList = p.toList ++ names := by
  induction names generalizing p with
  | nil => simp
  | cons name rest ih => simp [ih]

@[simp] theorem toList_ofList (names : List Text) : (ofList names).toList = names :=
  toList_foldl_child names root

theorem ofList_toList (p : Place) : ofList p.toList = p := toList_injective (toList_ofList _)

end Place

end ClassLayout

namespace ClassLayout

/-- What a tree holds: package directories, class files, groups of names that met on one key, and
entries that carry a number. -/
@[ext]
structure Stats where
  packages : Nat := 0
  classes : Nat := 0
  virtualGroups : Nat := 0
  disambiguated : Nat := 0
  deriving DecidableEq, Repr

instance : Add Stats where
  add a b :=
    ⟨a.packages + b.packages, a.classes + b.classes, a.virtualGroups + b.virtualGroups,
      a.disambiguated + b.disambiguated⟩

namespace Stats

@[simp] theorem packages_add (a b : Stats) : (a + b).packages = a.packages + b.packages := rfl

@[simp] theorem classes_add (a b : Stats) : (a + b).classes = a.classes + b.classes := rfl

@[simp] theorem virtualGroups_add (a b : Stats) :
    (a + b).virtualGroups = a.virtualGroups + b.virtualGroups := rfl

@[simp] theorem disambiguated_add (a b : Stats) :
    (a + b).disambiguated = a.disambiguated + b.disambiguated := rfl

end Stats

end ClassLayout

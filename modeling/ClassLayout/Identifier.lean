import ClassLayout.Error

namespace ClassLayout

def IsSegment (t : Text) : Prop := t ≠ [] ∧ '/' ∉ t

instance (t : Text) : Decidable (IsSegment t) := inferInstanceAs (Decidable (_ ∧ _))

/-- The name of a class: the segments of its package, then its own. -/
structure Identifier where
  package : List Text
  className : Text
  package_valid : ∀ s ∈ package, IsSegment s
  className_valid : IsSegment className
  deriving DecidableEq

namespace Identifier

def segments (i : Identifier) : List Text := i.package ++ [i.className]

def display (i : Identifier) : Text := 'L' :: Text.joined '/' i.segments ++ [';']

def betweenMarkers? : Text → Option Text
  | 'L' :: rest => if rest.getLast? = some ';' then some rest.dropLast else none
  | _ => none

/-- The first flaw among the pieces of a descriptor: one in the package hides one in the class
name. -/
def ofPieces (pieces : List Text) (h : ∀ p ∈ pieces, '/' ∉ p) : Except IdentifierFlaw Identifier :=
  match hp : pieces.getLast? with
  | none => .error .emptyClassName
  | some name =>
      if hd : ∃ p ∈ pieces.dropLast, p = [] then .error .emptyPackageSegment
      else if hn : name = [] then .error .emptyClassName
      else .ok {
        package := pieces.dropLast
        className := name
        package_valid := fun p hm =>
          ⟨fun he => hd ⟨p, hm, he⟩, h p (List.dropLast_subset pieces hm)⟩
        className_valid := ⟨hn, h name (List.mem_of_getLast? hp)⟩ }

def parse (descriptor : Text) : Except Error Identifier :=
  match betweenMarkers? descriptor with
  | none => .error (.invalidIdentifier descriptor .missingMarkers)
  | some inner =>
      match ofPieces (Text.pieces '/' inner) (fun _ => Text.not_mem_of_mem_pieces) with
      | .error flaw => .error (.invalidIdentifier descriptor flaw)
      | .ok i => .ok i

def ofSegments (segments : List Text) : Except Error Identifier :=
  let joined := Text.joined '/' segments
  match hl : segments.getLast? with
  | none => .error (.invalidIdentifier joined .noSegments)
  | some name =>
      match hf : segments.find? (fun s => decide ('/' ∈ s)) with
      | some bad => .error (.invalidIdentifier joined (.separatorIn bad))
      | none =>
          if he : [] ∈ segments then .error (.invalidIdentifier joined .emptySegment)
          else
            have valid : ∀ s ∈ segments, IsSegment s := fun s hs =>
              ⟨fun h => he (h ▸ hs), by simpa using List.find?_eq_none.1 hf s hs⟩
            .ok {
              package := segments.dropLast
              className := name
              package_valid := fun s hs => valid s (List.dropLast_subset segments hs)
              className_valid := valid name (List.mem_of_getLast? hl) }

/-- The descriptor that a dotted name such as `com.example.Foo` stands for. -/
def descriptorOfBinaryName (name : Text) : Text :=
  'L' :: name.map (fun c => if c = '.' then '/' else c) ++ [';']

def ofBinaryName (name : Text) : Except Error Identifier := parse (descriptorOfBinaryName name)

theorem segment_valid (i : Identifier) {s : Text} (h : s ∈ i.segments) : IsSegment s := by
  rcases List.mem_append.1 h with h | h
  · exact i.package_valid s h
  · exact (List.mem_singleton.1 h) ▸ i.className_valid

theorem segments_ne_nil (i : Identifier) : i.segments ≠ [] := by simp [segments]

theorem segments_injective {i j : Identifier} (h : i.segments = j.segments) : i = j := by
  obtain ⟨p, c, _, _⟩ := i
  obtain ⟨q, d, _, _⟩ := j
  simp only [segments] at h
  obtain ⟨rfl, h⟩ := List.append_inj' h rfl
  simp_all

end Identifier

end ClassLayout

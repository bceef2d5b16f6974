import ClassLayout.Proofs.Tree.Budget

namespace ClassLayout

namespace Tree

variable {σ : Type} {probe : Probe σ} {settings : Settings} {outputDir : Location} {t : Tree}
  {s₀ : σ}

/-- Whatever was cut or numbered after the escape, no stem is the name of a device, neither by
itself nor with its number. -/
theorem allocateAll_clear_of_devices (built : (build probe settings outputDir s₀).1 = .ok t)
    (identifiers : List Identifier) (s : σ) :
    ∃ given : List (List Text),
      (t.allocateAll probe identifiers s).1 =
        given.map (fun names => .ok (outputDir.joinAll names)) ∧
      List.Forall₂ (fun i names => List.Forall₂ t.rules.ClearOfDevices i.steps names)
        identifiers given := by
  have hbuilt := builtFrom_of_build built
  obtain ⟨given, c, hruns, hpaths, _⟩ := allocateAll_simulates hbuilt probe identifiers s
  refine ⟨given, hpaths, hruns.forall₂ ?_⟩
  intro _ _ _ _ name p hlisted
  exact hbuilt.accepted.clearOfDevices ((hruns.sound p).name_eq _ hlisted)

theorem allocateAll_clear_of_devices_literal_marker :
    ∃ t identifiers,
      (build (.fixed .insensitive true) { fileExtension := [], maxComponentBytes := 8 }
        (.text ['o']) ()).1 = .ok t ∧ t.rules.escapes ∧
      identifiers.map Identifier.display =
        ["LCON/com1;".toList, "Lcon/COM1#;".toList, "Lcon/Com1;".toList] ∧
      (t.allocateAll (.fixed .insensitive true) identifiers ()).1 =
        ["o/CON#/com1#".toList, "o/con#.2/COM1#".toList,
          "o/con#.2/Com1#.2".toList].map (.ok ∘ .text) ∧
      ∃ given,
        (t.allocateAll (.fixed .insensitive true) identifiers ()).1 =
          given.map (fun names => .ok ((Location.text ['o']).joinAll names)) ∧
        List.Forall₂ (fun i names => List.Forall₂ t.rules.ClearOfDevices i.steps names)
          identifiers given := by
  have built : (build (.fixed .insensitive true) { fileExtension := [], maxComponentBytes := 8 }
      (.text ['o']) ()).1 =
      .ok { outputDir := .text ['o'], settings := { fileExtension := [], maxComponentBytes := 8 },
            escapes := true } := rfl
  refine ⟨_, [⟨["CON".toList], "com1".toList, ?_, ?_⟩, ⟨["con".toList], "COM1#".toList, ?_, ?_⟩,
    ⟨["con".toList], "Com1".toList, ?_, ?_⟩], built, rfl, ?_, ?_,
    allocateAll_clear_of_devices built _ ()⟩
  all_goals decide +kernel

end Tree

end ClassLayout

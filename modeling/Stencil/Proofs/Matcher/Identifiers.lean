import Stencil.Proofs.Matcher.Independence
import Stencil.Proofs.Pattern.Positions

/-!
The names that the validation accepts and the names that the scan reads.

The scan reads a name as a run of characters that is cut at the bound and must end before a colon or
a bracket; the validation looks at the whole name. The main statement is `identifier_iff_scanned`: the
names are the same. So a filter that was validated can be named by a pattern, and one that was
registered under any other name takes part in none.
-/

namespace Stencil

namespace Grammar

variable {grammar : Grammar}

theorem isIdentifier_of_mem_scan {pattern : String} {located : Located}
    (found : located ∈ grammar.scan pattern) :
    grammar.isIdentifier located.placeholder.filter = true ∧
      ∀ prop, located.placeholder.prop = some prop → grammar.isIdentifier prop = true := by
  have admits := (mem_scan_iff.mp found).1
  exact ⟨admits.isIdentifier, fun prop named => isIdentifier_iff.mpr (admits.prop prop named)⟩

theorem isIdentifier_of_mem_filters {text name : String} (named : name ∈ grammar.filters text) :
    grammar.isIdentifier name = true := by
  obtain ⟨located, found, rfl⟩ := List.mem_map.mp named
  exact (isIdentifier_of_mem_scan found).1

/-- The pattern that names a filter and nothing else is one placeholder. -/
theorem pieces_named {name : String} (isIdentifier : grammar.isIdentifier name = true) :
    grammar.pieces ("[" ++ name ++ ":]").toList = [.hole ⟨name, none⟩] := by
  have text : ("[" ++ name ++ ":]").toList = (⟨name, none⟩ : Placeholder).text ++ [] := by
    rw [String.toList_append, String.toList_append, List.append_assoc, List.append_nil]
    rfl
  rw [text, pieces_placeholder (admits_of_isIdentifier isIdentifier), pieces]

theorem scan_named {name : String} (isIdentifier : grammar.isIdentifier name = true) :
    grammar.scan ("[" ++ name ++ ":]") =
      [⟨⟨name, none⟩, 0, ("[" ++ name ++ ":]").utf8ByteSize⟩] := by
  have whole := grammar.flatMap_text_pieces ("[" ++ name ++ ":]").toList
  rw [pieces_named isIdentifier, List.flatMap_singleton] at whole
  rw [scan, pieces_named isIdentifier, locate, locate, ← byteLength_toList, ← whole, Nat.zero_add]
  rfl

/-- The identifiers are the filters of placeholders: the names that some pattern can have, and those
that a pattern of nothing else has. All properties are identifiers too. Hence an accepted filter is
used by a pattern; a registration under another name changes no pattern. -/
theorem identifier_iff_scanned [Regex.Measure] (bound : Nat) (name : String) :
    ((ofBound bound).isIdentifier name = true ↔
      ∃ pattern, ∃ located ∈ (ofBound bound).scan pattern, located.placeholder.filter = name) ∧
    ((ofBound bound).isIdentifier name = true ↔
      ∃ prop, (ofBound bound).scan ("[" ++ name ++ ":]") =
        [⟨⟨name, prop⟩, 0, ("[" ++ name ++ ":]").utf8ByteSize⟩]) ∧
    (∀ pattern, ∀ located ∈ (ofBound bound).scan pattern, ∀ prop,
      located.placeholder.prop = some prop → (ofBound bound).isIdentifier prop = true) ∧
    (∀ (registry extended : Registry) (fragment : String),
      registry.tryRegister (ofBound bound) name fragment = .ok extended →
      Pattern.source extended ((ofBound bound).pieces ("[" ++ name ++ ":]").toList) =
        .ok ("^" ++ ("(?:" ++ fragment ++ ")") ++ "$")) ∧
    ((ofBound bound).isIdentifier name = false →
      ∀ (registry : Registry) (fragment text : String) (sizeLimit : Nat),
      Pattern.tryCompile text (registry.register name fragment) (ofBound bound) sizeLimit =
          Pattern.tryCompile text registry (ofBound bound) sizeLimit ∧
        Pattern.compile text (registry.register name fragment) (ofBound bound) sizeLimit =
          Pattern.compile text registry (ofBound bound) sizeLimit) := by
  refine ⟨⟨fun isIdentifier => ?_, ?_⟩, ⟨fun isIdentifier => ?_, ?_⟩, ?_, ?_, ?_⟩
  · exact ⟨_, _, scan_named isIdentifier ▸ List.mem_singleton_self _, rfl⟩
  · rintro ⟨pattern, located, found, rfl⟩
    exact (isIdentifier_of_mem_scan found).1
  · exact ⟨none, scan_named isIdentifier⟩
  · rintro ⟨prop, scanned⟩
    exact (isIdentifier_of_mem_scan (scanned ▸ List.mem_singleton_self _)).1
  · exact fun pattern located found => (isIdentifier_of_mem_scan found).2
  · intro registry extended fragment accepted
    obtain ⟨isIdentifier, _, rfl⟩ := Registry.tryRegister_eq_ok_iff.mp accepted
    have found : [Piece.hole ⟨name, none⟩].mapM
        (Pattern.pieceSource (registry.register name fragment)) = .ok [Pattern.enclose fragment] :=
      Pattern.mapM_pieceSource_hole Registry.get?_register_self
    rw [pieces_named isIdentifier, Pattern.source_of_sources found,
      Pattern.ofList_assembled, List.flatten_singleton, Pattern.ofList_enclose]
  · intro noIdentifier registry fragment text sizeLimit
    have agree : (registry.register name fragment).AgreeOn ((ofBound bound).filters text)
        registry := by
      refine Registry.AgreeOn.register_left (fun _ _ => rfl) fragment fun named => ?_
      rw [isIdentifier_of_mem_filters named] at noIdentifier
      cases noIdentifier
    have same := Pattern.tryCompile_congr agree sizeLimit
    exact ⟨same, by rw [Pattern.compile, same, Pattern.compile]⟩

/-- A name as long as the bound, and one that is longer although it is that of a built-in filter. -/
theorem identifier_iff_scanned_atBound :
    (∃ prop, (ofBound 4).scan "[yn_1:]" = [⟨⟨"yn_1", prop⟩, 0, 7⟩]) ∧
    Pattern.source (Registry.builtin.register "yn_1" "(y|n)")
      ((ofBound 4).pieces "[yn_1:]".toList) = .ok "^(?:(y|n))$" ∧
    (∀ pattern, ∀ located ∈ (ofBound 4).scan pattern,
      located.placeholder.filter ≠ "digit") ∧
    ∀ text, Pattern.tryCompile text (Registry.builtin.register "digit" "(x)") (ofBound 4)
        defaultSizeLimit =
      Pattern.tryCompile text Registry.builtin (ofBound 4) defaultSizeLimit := by
  have short : (ofBound 4).isIdentifier "yn_1" = true := by decide +kernel
  have long : (ofBound 4).isIdentifier "digit" = false := by decide +kernel
  obtain ⟨_, alone, _, accepted, _⟩ := identifier_iff_scanned 4 "yn_1"
  obtain ⟨named, _, _, _, unnamed⟩ := identifier_iff_scanned 4 "digit"
  refine ⟨alone.mp short, ?_, ?_, fun text => (unnamed long Registry.builtin "(x)" text _).1⟩
  · exact accepted Registry.builtin _ "(y|n)" (Registry.tryRegister_of_valid _ _ short
      (by decide +kernel))
  · intro pattern located found same
    rw [named.mpr ⟨pattern, located, found, same⟩] at long
    cases long

end Grammar

end Stencil

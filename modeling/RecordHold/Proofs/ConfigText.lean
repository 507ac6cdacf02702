import RecordHold.Config.Basic
import RecordHold.Proofs.TomlText
/-!
# Proofs.ConfigText — a configuration is read back from its text

The document of a configuration can be written exactly if both of its numbers are integers of TOML
(`document_fits_iff`), and then it is read as its tables, which give the settings it was made of (`ofToml?_toml`).  So a
configuration comes back from its text if it is valid; if its batch is empty, the text is refused; and if a number does
not fit a signed integer, there is no text (`render_read`).
-/
namespace RecordHold
namespace Config

open Toml

/-! ## The document of a configuration -/

/-- **Both numbers of a configuration fit a signed integer.** -/
def Fits (c : Config) : Prop :=
  c.store.scanBatchSize.toNat ≤ 0x7FFFFFFFFFFFFFFF ∧ c.logging.slowQueryMs.toNat ≤ 0x7FFFFFFFFFFFFFFF

theorem holds_i64 (n : Nat) : IntType.i64.holds n ↔ n ≤ 0x7FFFFFFFFFFFFFFF := by
  have hleast : IntType.i64.least = -0x8000000000000000 := by decide
  have hgreatest : IntType.i64.greatest = 0x7FFFFFFFFFFFFFFF := by decide
  rw [IntType.holds, hleast, hgreatest]
  omega

/-- Nothing but a number stands in the way of writing a document. -/
theorem document_fits_iff {c : Config} : (∀ t ∈ c.document.tables, ∀ e ∈ t.rows, e.2.Fits) ↔ c.Fits := by
  simp only [document, List.forall_mem_cons, List.not_mem_nil, false_implies, implies_true, Plain.Fits, holds_i64,
    true_and, and_true, Fits]

theorem render_of_not_fits {c : Config} (h : ¬ c.Fits) : c.render = .error .unwritable := by
  have hnone : c.document.write = none := by
    rw [← Option.not_isSome_iff_eq_none, PlainDocument.write_isSome, document_fits_iff]
    exact h
  rw [render, hnone]

/-! ## Settings -/

/-- A choice is found by its name. -/
theorem choice?_name {α : Type} {name : α → String} {all : List α} (hinj : ∀ a b, name a = name b → a = b) {a : α}
    (ha : a ∈ all) : choice? name all (.string (name a)) = some a := by
  cases hfind : choice? name all (.string (name a)) with
  | none   => exact absurd (beq_self_eq_true (name a)) (List.find?_eq_none.1 hfind a ha)
  | some b => rw [hinj b a (eq_of_beq (List.find?_some (p := fun b => name b == name a) hfind))]

theorem number?_toNat (n : UInt64) : number? (.integer n.toNat) = some n := by
  show (if (0 : Int) ≤ n.toNat then some (UInt64.ofNat (n.toNat : Int).toNat) else none) = some n
  rw [if_pos (Int.natCast_nonneg _), Int.toNat_natCast, UInt64.ofNat_toNat]

/-- **Settings are those that the tables were written from.** -/
theorem ofToml?_toml (c : Config) : ofToml? (c.document.tables.map PlainTable.toml) = some c := by
  have hcodec : choice? Codec.name Codec.all (.string c.store.codec.name) = some c.store.codec :=
    choice?_name (fun a b => by cases a <;> cases b <;> decide) (by cases c.store.codec <;> decide)
  have hlevel : choice? LogLevel.name LogLevel.all (.string c.logging.level.name) = some c.logging.level :=
    choice?_name (fun a b => by cases a <;> cases b <;> decide) (by cases c.logging.level <;> decide)
  have hformat : choice? LogFormat.name LogFormat.all (.string c.logging.format.name) = some c.logging.format :=
    choice?_name (fun a b => by cases a <;> cases b <;> decide) (by cases c.logging.format <;> decide)
  have hstore : store? (.table [("scan_batch_size", .integer c.store.scanBatchSize.toNat),
      ("codec", .string c.store.codec.name)]) = some c.store := by
    show ((number? (.integer c.store.scanBatchSize.toNat)).bind fun size =>
      (choice? Codec.name Codec.all (.string c.store.codec.name)).bind fun codec => some ⟨size, codec⟩) = some c.store
    rw [number?_toNat, hcodec]
    rfl
  have hlogging : logging? (.table [("level", .string c.logging.level.name),
      ("format", .string c.logging.format.name), ("slow_query_threshold_ms", .integer c.logging.slowQueryMs.toNat)]) =
      some c.logging := by
    show ((choice? LogLevel.name LogLevel.all (.string c.logging.level.name)).bind fun level =>
      (choice? LogFormat.name LogFormat.all (.string c.logging.format.name)).bind fun format =>
        (number? (.integer c.logging.slowQueryMs.toNat)).bind fun slow => some ⟨level, format, slow⟩) = some c.logging
    rw [number?_toNat, hlevel, hformat]
    rfl
  show ((store? (.table [("scan_batch_size", .integer c.store.scanBatchSize.toNat),
      ("codec", .string c.store.codec.name)])).bind fun store =>
    (logging? (.table [("level", .string c.logging.level.name), ("format", .string c.logging.format.name),
      ("slow_query_threshold_ms", .integer c.logging.slowQueryMs.toNat)])).bind fun logging =>
        some ⟨store, logging⟩) = some c
  rw [hstore, hlogging]
  rfl

/-- **A text that can be written is read, and then validated.** -/
theorem read_render {c : Config} (h : c.Fits) :
    ∃ s, c.render = .ok s ∧ read s = c.validate.map (fun _ => c) := by
  obtain ⟨s, hs⟩ := Option.isSome_iff_exists.1 (PlainDocument.write_isSome.2 (document_fits_iff.2 h))
  refine ⟨s, by rw [render, hs], ?_⟩
  rw [read, PlainDocument.read_write hs, Option.bind_some, ofToml?_toml]

theorem validate_eq (c : Config) :
    c.validate = if 1 ≤ c.store.scanBatchSize.toNat then .ok () else .error .emptyBatch := by
  rw [validate]
  by_cases hbatch : c.store.scanBatchSize = 0
  · rw [if_pos hbatch, hbatch]
    rfl
  · have hpos : 1 ≤ c.store.scanBatchSize.toNat := Nat.pos_of_ne_zero (fun h => hbatch (UInt64.toNat_inj.1 h))
    rw [if_neg hbatch, if_pos hpos]

/-- **A configuration comes back from its text exactly if it is valid** and its numbers fit a signed integer.  If one of
them does not, there is no text; and if they fit but no entry is in a batch, the text is refused for that. -/
theorem render_read (c : Config) :
    ((∃ s, c.render = .ok s ∧ read s = .ok c) ↔ 1 ≤ c.store.scanBatchSize.toNat ∧ c.Fits) ∧
      (¬ c.Fits → c.render = .error .unwritable) ∧
      (c.Fits → c.store.scanBatchSize = 0 → ∃ s, c.render = .ok s ∧ read s = .error .emptyBatch) := by
  refine ⟨⟨?_, ?_⟩, render_of_not_fits, fun hfits hbatch => ?_⟩
  · rintro ⟨s, hs, hread⟩
    by_cases hfits : c.Fits
    · obtain ⟨s', hs', hread'⟩ := read_render hfits
      obtain rfl : s = s' := Except.ok.inj (hs.symm.trans hs')
      by_cases hbatch : 1 ≤ c.store.scanBatchSize.toNat
      · exact ⟨hbatch, hfits⟩
      · rw [hread', validate_eq, if_neg hbatch] at hread
        cases hread
    · rw [render_of_not_fits hfits] at hs
      cases hs
  · rintro ⟨hbatch, hfits⟩
    obtain ⟨s, hs, hread⟩ := read_render hfits
    rw [validate_eq, if_pos hbatch] at hread
    exact ⟨s, hs, hread⟩
  · obtain ⟨s, hs, hread⟩ := read_render hfits
    rw [validate, if_pos hbatch] at hread
    exact ⟨s, hs, hread⟩

/-- The largest threshold comes back, the next one cannot be written, and an empty batch is refused. -/
theorem render_read_bounds :
    (∃ s, render ⟨⟨1, .json⟩, ⟨.debug, .text, 0x7FFFFFFFFFFFFFFF⟩⟩ = .ok s ∧
      read s = .ok ⟨⟨1, .json⟩, ⟨.debug, .text, 0x7FFFFFFFFFFFFFFF⟩⟩) ∧
    render ⟨⟨1, .json⟩, ⟨.debug, .text, 0x8000000000000000⟩⟩ = .error .unwritable ∧
    ∃ s, render ⟨⟨0, .binary⟩, ⟨.info, .json, 0⟩⟩ = .ok s ∧ read s = .error .emptyBatch :=
  ⟨(render_read _).1.2 ⟨by decide, by decide, by decide⟩, (render_read _).2.1 (fun h => absurd h.2 (by decide)),
    (render_read _).2.2 ⟨by decide, by decide⟩ rfl⟩

end Config
end RecordHold

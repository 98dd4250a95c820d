import LinkWatch.Proofs.Exclusion.Codec
import LinkWatch.Proofs.Text.Utf8
import LinkWatch.Settings.File

/-! # Settings that are saved are loaded as they were -/

namespace LinkWatch

open Json

/-! ## The groups -/

theorem writes_word64 (n : UInt64) : Writes word64 0 (.natural n.toNat) n.toNat :=
  writes_natural "u64" (Nat.le_of_lt_succ n.toNat_lt) (by decide)

theorem writes_size64 (n : UInt64) : Writes size64 0 (.natural n.toNat) n.toNat :=
  writes_natural "usize" (Nat.le_of_lt_succ n.toNat_lt) (by decide)

theorem writes_word32 (n : UInt32) : Writes word32 0 (.natural n.toNat) n.toNat :=
  writes_natural "u32" (Nat.le_of_lt_succ n.toNat_lt) (by decide)

theorem writes_word16 (n : UInt16) : Writes word16 0 (.natural n.toNat) n.toNat :=
  writes_natural "u16" (Nat.le_of_lt_succ n.toNat_lt) (by decide)

theorem writes_scan (s : ScanSettings) : Writes ScanSettings.form.decode 3 s.toJson s := by
  unfold ScanSettings.toJson
  apply writes_form
  · refine .field rfl (by decide) ((writes_word64 s.pollMillis).mono (Nat.zero_le 2)) ?_
    refine .field rfl (by decide) ((writes_bool s.showSocketCan).mono (Nat.zero_le 2)) ?_
    refine .field rfl (by decide) (writes_list fun x _ => x.writes_exclusion) ?_
    refine .field rfl (by decide) ((writes_word16 s.simulator).mono (Nat.zero_le 2)) ?_
    refine .field rfl (by decide) ((writes_word64 s.probeMillis).mono (Nat.zero_le 2)) ?_
    exact takes_end (by simp) _
  · intro h
    exact absurd h Bool.false_ne_true

theorem writes_open (s : OpenSettings) : Writes OpenSettings.form.decode 1 s.toJson s := by
  unfold OpenSettings.toJson
  apply writes_form
  · refine .field rfl (by decide) (writes_word32 s.baud) ?_
    refine .field rfl (by decide) (writes_word64 s.timeoutMillis) ?_
    exact takes_end (by simp) _
  · intro h
    exact absurd h Bool.false_ne_true

theorem writes_drain (s : DrainSettings) : Writes DrainSettings.form.decode 1 s.toJson s := by
  unfold DrainSettings.toJson
  apply writes_form
  · refine .field rfl (by decide) (writes_size64 s.bufferSize) ?_
    exact takes_end (by simp) _
  · intro h
    exact absurd h Bool.false_ne_true

theorem writes_settings (s : Settings) : Writes Settings.form.decode 4 s.toJson s := by
  unfold Settings.toJson
  apply writes_form
  · refine .field rfl (by decide) (writes_scan s.scan) ?_
    refine .field rfl (by decide) ((writes_open s.opening).mono (by decide)) ?_
    refine .field rfl (by decide) ((writes_drain s.drain).mono (by decide)) ?_
    refine .field rfl (by decide) ((writes_optional s.target).mono (by decide)) ?_
    exact takes_end (by simp) _
  · intro h
    exact absurd h Bool.false_ne_true

/-! ## Whole files -/

namespace Settings

theorem read_written (s : Settings) : read (s.toJson.write indented 0) = .ok s := by
  have hread := writes_settings s indented indented_blank 0 depthLimit [] [] (by decide) spaces_nil
    trivial
  rw [List.nil_append, List.append_nil] at hread
  unfold read readChars
  rw [hread]
  rfl

/-- Settings that are saved to a file that can be written are loaded from it as they were. -/
theorem load_saved (s : Settings) :
    ∃ content, s.save none = .ok content ∧ load (.ok content) = .ok s := by
  have htext : s.render.toList = s.toJson.write indented 0 := String.toList_ofList
  refine ⟨s.render.toUTF8, rfl, ?_⟩
  unfold load
  simp only [fromUTF8?_toUTF8]
  unfold ofText
  rw [htext, read_written]

end Settings

end LinkWatch

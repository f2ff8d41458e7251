import SampleData.CommandLine.Run
import SampleData.Proofs.Store.Walks

/-! # The settings of a run

A run takes each setting from a flag, or else from the settings file, or else from the defaults. Where this leaves it with
a seed and a valid log level, its command runs on a fresh facade with these settings.
-/
namespace SampleData

namespace Toml

instance (v : Toml) (s : String) : Decidable (v = .text s) :=
  match v with
  | .text t => decidable_of_iff (t = s) (by simp)
  | .int _ | .real _ | .bool _ | .moment _ | .list _ | .tables _ | .table _ _ => isFalse nofun

instance (v : Toml) (n : ℤ) : Decidable (v = .int n) :=
  match v with
  | .int m => decidable_of_iff (m = n) (by simp)
  | .text _ | .real _ | .bool _ | .moment _ | .list _ | .tables _ | .table _ _ => isFalse nofun

instance {α : Type} (make : α → Toml) [∀ v a, Decidable (v = make a)] (o : Option Toml) (p : Option α) :
    Decidable (o = p.map make) :=
  match o, p with
  | none, none => isTrue rfl
  | none, some _ | some _, none => isFalse nofun
  | some v, some a => decidable_of_iff (v = make a) (by simp)

end Toml

structure FileSettings where
  locale : Option String
  seed : Option UInt64
  assetsDirectory : Option String
  logLevel : Option String

namespace FileSettings

structure SaidBy (s : FileSettings) (es : Toml.Entries) : Prop where
  locale : es.lookup "locale" = s.locale.map .text
  seed : es.lookup "seed" = s.seed.map fun n => .int n.toNat
  assetsDirectory : es.lookup "assets_dir" = s.assetsDirectory.map .text
  logLevel : es.lookup "log_level" = s.logLevel.map .text
  logFormat : ∃ format, Settings.logFormatIn es = .ok format

theorem saidBy_iff {s : FileSettings} {es : Toml.Entries} : s.SaidBy es ↔
    (es.lookup "locale" = s.locale.map .text ∧ es.lookup "seed" = s.seed.map fun n => .int n.toNat) ∧
    (es.lookup "assets_dir" = s.assetsDirectory.map .text ∧ es.lookup "log_level" = s.logLevel.map .text) ∧
      (Settings.logFormatIn es).isOk = true := by
  constructor
  · intro h
    obtain ⟨format, hf⟩ := h.logFormat
    exact ⟨⟨h.locale, h.seed⟩, ⟨h.assetsDirectory, h.logLevel⟩, hf ▸ rfl⟩
  · rintro ⟨⟨hlocale, hseed⟩, ⟨hassets, hlevel⟩, hformat⟩
    refine ⟨hlocale, hseed, hassets, hlevel, ?_⟩
    cases hf : Settings.logFormatIn es with
    | ok format => exact ⟨format, rfl⟩
    | error fault =>
      rw [hf] at hformat
      cases hformat

instance (s : FileSettings) (es : Toml.Entries) : Decidable (s.SaidBy es) := decidable_of_iff _ saidBy_iff.symm

end FileSettings

namespace Settings

end Settings

namespace CommandLine

variable {σ : Type} [SeededSource σ] {disk : Disk} {workingDirectory words : List String} {i : Invocation}
  {c : Configuration}

end CommandLine

end SampleData

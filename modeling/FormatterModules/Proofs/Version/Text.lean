import FormatterModules.Proofs.Text.Decimal
import FormatterModules.Version

namespace FormatterModules.Version

theorem readPart?_decimal (p : UInt32) : readPart? (Text.decimal p.toNat) = some p := by
  rw [readPart?, Text.readBelow?_decimal p.toNat_lt, Option.map_some, UInt32.ofNat_toNat]

/-- The pieces between the dots of the text of a version are the digits of its numbers. -/
theorem splitOn_render (v : Version) :
    Text.splitOn '.' v.render.toList = v.parts.map fun p => Text.decimal p.toNat := by
  have hrender : v.render.toList = ['.'].intercalate (v.parts.map fun p => Text.decimal p.toNat) := by
    rw [render, Text.join, String.toList_intercalate, List.map_map]
    simp [Function.comp_def]
  rw [Text.splitOn, hrender, List.splitOn_intercalate]
  · intro digits hd hdot
    obtain ⟨p, _, rfl⟩ := List.mem_map.mp hd
    exact absurd (Text.isDigit_of_mem_decimal hdot) (by decide)
  · simpa using v.parts_ne_nil

theorem parse?_render (v : Version) : parse? v.render = some v := by
  have hread : (Text.splitOn '.' v.render.toList).mapM readPart? = some v.parts := by
    rw [splitOn_render]
    induction v.parts with
    | nil => rfl
    | cons p ps ih => simp [readPart?_decimal, ih]
  cases hp : v.parts with
  | nil => exact absurd hp v.parts_ne_nil
  | cons p ps =>
    rw [parse?, hread, hp]
    exact congrArg some (Version.ext hp.symm)

theorem render_injective {v w : Version} (h : v.render = w.render) : v = w := by
  have hv := parse?_render v
  rw [h, parse?_render w] at hv
  exact (Option.some.inj hv).symm

end FormatterModules.Version

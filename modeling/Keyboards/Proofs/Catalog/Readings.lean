import Keyboards.Proofs.Catalog.Resolution

/-! The dash readings of an identifier are all ways to read it as a layout, a dash and a locale, each
once, and the shortest layout first. -/

namespace Keyboards.Catalog

variable {s : String}

/-- The layout of a reading, with the dash behind it, begins the layout of each later reading. -/
theorem pairwise_dashReadings (s : String) :
    (dashReadings s).Pairwise fun p q => ∃ more, q.1 = p.1 ++ "-" ++ more := by
  rw [dashReadings, List.pairwise_map]
  refine (Text.pairwise_cuts '-' s.toList).imp fun {p q} hbegins => ?_
  obtain ⟨more, hmore⟩ := hbegins
  refine ⟨String.ofList more, ?_⟩
  rw [← String.toList_inj]
  simp [← hmore]

theorem ascending_dashReadings (s : String) :
    (dashReadings s).Pairwise fun p q =>
      p.1.length < q.1.length ∧ p.1.utf8ByteSize < q.1.utf8ByteSize := by
  refine (pairwise_dashReadings s).imp fun {p q} hbegins => ?_
  obtain ⟨more, hmore⟩ := hbegins
  have hlength : "-".length = 1 := rfl
  have hbytes : "-".utf8ByteSize = 1 := rfl
  rw [hmore, String.length_append, String.length_append, String.utf8ByteSize_append,
    String.utf8ByteSize_append]
  omega

theorem nodup_dashReadings (s : String) : (dashReadings s).Nodup :=
  (ascending_dashReadings s).imp fun hlt he => hlt.1.ne (congrArg (·.1.length) he)

theorem length_dashReadings (s : String) : (dashReadings s).length = s.toList.count '-' := by
  rw [dashReadings, List.length_map, Text.length_cuts]

theorem dashReadings_eq_nil_iff : dashReadings s = [] ↔ '-' ∉ s.toList := by
  rw [← List.length_eq_zero_iff, length_dashReadings, List.count_eq_zero]

/-- A dash joins the first so many segments of an identifier to the layout of a reading, and the
others to its locale. -/
theorem dashReadings_eq_segments (s : String) :
    dashReadings s = (List.range' 1 ((Text.split '-' s).length - 1)).map fun i =>
      ("-".intercalate ((Text.split '-' s).take i),
        "-".intercalate ((Text.split '-' s).drop i)) := by
  rw [dashReadings, Text.cuts_eq_pieces, List.map_map, Text.split, List.length_map,
    Text.length_fields, Nat.add_sub_cancel]
  refine List.map_congr_left fun i _ => ?_
  have hjoin : ∀ pieces : List (List Char),
      String.ofList (['-'].intercalate pieces) = "-".intercalate (pieces.map String.ofList) := by
    intro pieces
    rw [← String.toList_inj, String.toList_ofList, String.toList_intercalate, List.map_map]
    simp
  simp [hjoin]

/-- The readings of an identifier are exactly the pairs that a dash joins to it, each of them once,
also those with an empty layout or an empty locale. They come in the order of their layouts, the
shortest first, there is one for each dash, and they arise from joining the segments of the
identifier again in front of each dash and behind it. -/
theorem dashReadings_exact (s : String) :
    (∀ layout locale, (dashReadings s).count (layout, locale) =
      if layout ++ "-" ++ locale = s then 1 else 0) ∧
    ((dashReadings s).Pairwise fun p q =>
      p.1.length < q.1.length ∧ p.1.utf8ByteSize < q.1.utf8ByteSize) ∧
    (dashReadings s).length = s.toList.count '-' ∧
    (dashReadings s = [] ↔ '-' ∉ s.toList) ∧
    dashReadings s = (List.range' 1 ((Text.split '-' s).length - 1)).map fun i =>
      ("-".intercalate ((Text.split '-' s).take i),
        "-".intercalate ((Text.split '-' s).drop i)) := by
  refine ⟨fun layout locale => ?_, ascending_dashReadings s, length_dashReadings s,
    dashReadings_eq_nil_iff, dashReadings_eq_segments s⟩
  rw [(nodup_dashReadings s).count]
  simp only [mem_dashReadings, eq_comm]

example : dashReadings "-us-" = [("", "us-"), ("-us", "")] := by decide

end Keyboards.Catalog

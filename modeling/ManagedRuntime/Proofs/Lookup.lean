/-! Association lists out of which an entry is taken, or into which one is put. -/
namespace ManagedRuntime

variable {κ α : Type} [DecidableEq κ]

theorem lookup_filter_ne (entries : List (κ × α)) (key other : κ) :
    (entries.filter (·.1 != key)).lookup other =
      if other = key then none else entries.lookup other := by
  induction entries with
  | nil => simp
  | cons entry rest ih =>
    obtain ⟨first, value⟩ := entry
    by_cases same : first = key
    · subst first
      by_cases equal : other = key
      · simpa [equal] using ih
      · have unequal : (other == key) = false := by simpa using equal
        simpa [List.lookup_cons, equal, unequal] using ih
    · have kept : (first != key) = true := by simpa using same
      simp only [List.filter_cons, kept, if_true, List.lookup_cons, ih]
      by_cases equal : other = key
      · have apart : (key == first) = false := by simpa using fun back => same back.symm
        simp [equal, apart]
      · simp [equal]

/-- What has no entry holds `blank`, and a `blank` is not entered. -/
theorem getD_lookup_put [DecidableEq α] (entries : List (κ × α)) (key other : κ)
    (value blank : α) :
    ((if value = blank then entries.filter (·.1 != key)
      else (key, value) :: entries.filter (·.1 != key)).lookup other).getD blank =
        if other = key then value else (entries.lookup other).getD blank := by
  by_cases idle : value = blank
  · simp only [idle, if_true, lookup_filter_ne]
    split <;> rfl
  · simp only [idle, if_false, List.lookup_cons, lookup_filter_ne]
    by_cases same : other = key
    · simp [same]
    · have unequal : (other == key) = false := by simpa using same
      simp [same, unequal]

end ManagedRuntime

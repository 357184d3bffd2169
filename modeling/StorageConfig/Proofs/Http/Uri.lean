import StorageConfig.Http.Uri

/-! Paths in the characters of paths are targets as they stand, with an empty query or without one. -/

namespace StorageConfig

namespace Target

/-- A path character neither starts a query nor a fragment. -/
theorem ne_of_isPathChar {c other : Char} (path : isPathChar c = true) (none_left : isPathChar other = false) :
    (c != other) = true := by
  rw [bne_iff_ne]
  rintro rfl
  rw [path] at none_left
  cases none_left

/-- Path characters are taken as long as none of them is what is stopped at. -/
theorem takeWhile_path {path : List Char} (chars : ∀ c ∈ path, isPathChar c = true) {mark : Char}
    (noPath : isPathChar mark = false) (rest : List Char) :
    (path ++ rest).takeWhile (· != mark) = path ++ rest.takeWhile (· != mark) := by
  rw [List.takeWhile_append_of_pos fun c member => ne_of_isPathChar (chars c member) noPath]

/-- Two texts of path characters make one. -/
theorem isPathChar_append {left right : String} (first : ∀ c ∈ left.toList, isPathChar c = true)
    (second : ∀ c ∈ right.toList, isPathChar c = true) : ∀ c ∈ (left ++ right).toList, isPathChar c = true := by
  rw [String.toList_append]
  exact List.forall_mem_append.2 ⟨first, second⟩

/-- A character that is in neither of two texts is not in both together. -/
theorem not_mem_append {c : Char} {left right : String} (first : c ∉ left.toList) (second : c ∉ right.toList) :
    c ∉ (left ++ right).toList := by
  rw [String.toList_append, List.mem_append, not_or]
  exact ⟨first, second⟩

/-- A path is a target without a query. -/
theorem parse_path {path : String} (chars : ∀ c ∈ path.toList, isPathChar c = true)
    (short : path.utf8ByteSize ≤ maxLength) : parse path = .ok ⟨path, none⟩ := by
  have shown : beforeFragment path.toList = path.toList := by
    simpa [beforeFragment] using takeWhile_path chars (rfl : isPathChar '#' = false) []
  have whole : path.toList.takeWhile (· != '?') = path.toList := by
    simpa using takeWhile_path chars (rfl : isPathChar '?' = false) []
  have long : ¬ maxLength < path.utf8ByteSize := by omega
  have all : path.toList.all isPathChar = true := List.all_eq_true.2 chars
  simp [parse, shown, whole, long, all]

/-- A path with a question mark is a target with an empty query. -/
theorem parse_path_query {path : String} (chars : ∀ c ∈ path.toList, isPathChar c = true)
    (short : path.utf8ByteSize + 1 ≤ maxLength) : parse (path ++ "?") = .ok ⟨path, some ""⟩ := by
  have shown : beforeFragment (path.toList ++ ['?']) = path.toList ++ ['?'] :=
    takeWhile_path chars (rfl : isPathChar '#' = false) ['?']
  have front : (path.toList ++ ['?']).takeWhile (· != '?') = path.toList := by
    simpa using takeWhile_path chars (rfl : isPathChar '?' = false) ['?']
  have long : ¬ maxLength < path.utf8ByteSize + "?".utf8ByteSize := by
    have mark : "?".utf8ByteSize = 1 := rfl
    omega
  have all : path.toList.all isPathChar = true := List.all_eq_true.2 chars
  simp [parse, String.utf8ByteSize_append, shown, front, long, all]

/-- A target that can be read consists of what stands before and after its question mark. -/
theorem eq_of_parse {path query : String} {target : Target} (closed : '?' ∉ path.toList)
    (pathShown : '#' ∉ path.toList) (queryShown : '#' ∉ query.toList)
    (parsed : parse (path ++ "?" ++ query) = .ok target) : target = ⟨path, some query⟩ := by
  have text : (path ++ "?" ++ query).toList = path.toList ++ '?' :: query.toList := by simp
  -- Without a number sign all of it is looked at, and the first question mark is the one in the middle.
  have shown : beforeFragment (path ++ "?" ++ query).toList = path.toList ++ '?' :: query.toList := by
    have apart : ∀ c ∈ path.toList ++ '?' :: query.toList, (c != '#') = true := by
      intro c member
      rw [bne_iff_ne]
      rintro rfl
      simp [pathShown, queryShown] at member
    rw [beforeFragment, text, ← List.append_nil (path.toList ++ '?' :: query.toList),
      List.takeWhile_append_of_pos apart]
    rfl
  have front : (path.toList ++ '?' :: query.toList).takeWhile (· != '?') = path.toList := by
    have apart : ∀ c ∈ path.toList, (c != '?') = true := by
      intro c member
      rw [bne_iff_ne]
      rintro rfl
      exact closed member
    rw [List.takeWhile_append_of_pos apart]
    simp
  simp only [parse, shown, front, List.drop_left] at parsed
  split at parsed
  · cases parsed
  · split at parsed
    · cases parsed
    · split at parsed
      · simpa using (Except.ok.inj parsed).symm
      · cases parsed

end Target

end StorageConfig

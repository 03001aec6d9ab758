import ThreadLab.Proofs.Listing.Addresses

namespace ThreadLab.Listing.Addresses

/-- The second word of the line, cut at its first slash. -/
def Places (line spelling size : Text) : Prop :=
  ∃ first rest, Text.words line = first :: (spelling ++ lengthMark :: size) :: rest ∧
    lengthMark ∉ spelling

/-- The second word of the line is an address in any spelling, a slash, and a prefix length. -/
def Tells (line : Text) (address : Ip.V6) (prefixLength : Int) : Prop :=
  ∃ spelling size, Places line spelling size ∧ Ip.V6.Spells spelling address ∧
    readSize size = .ok prefixLength

def Readable (line : Text) : Prop :=
  ∃ address prefixLength, Tells line address prefixLength

/-- What a line is not read for: the word, its slash, the address and the prefix length are looked
at in this order. -/
inductive LineFault (line : Text) : Fault → Prop
  | noWord (short : (Text.words line).length < 2) : LineFault line .noSuchPlace
  | noSlash {first word : Text} {rest : List Text} (words : Text.words line = first :: word :: rest)
    (uncut : lengthMark ∉ word) : LineFault line .noSlash
  | address {spelling size : Text} {cause : Ip.V6.Fault} (places : Places line spelling size)
    (unread : Ip.V6.parse spelling = .error cause) : LineFault line (.address cause)
  | size {spelling size : Text} {address : Ip.V6} {fault : Fault}
    (places : Places line spelling size) (spells : Ip.V6.Spells spelling address)
    (unread : readSize size = .error fault) : LineFault line fault

def reported (time : Int) (line : Text) (address : Ip.V6) (prefixLength : Int) : LinkAddress where
  address
  prefixLength := .integer prefixLength
  deprecationTime := .integer (deprecationTime time line)

def Lists (listing line : Text) : Prop :=
  line ∈ Text.lines listing ∧ Text.ofString "inet6" <:+: line

def addressLines (listing : Text) : List Text :=
  (Text.lines listing).filter isAddressLine

theorem mem_addressLines {listing line : Text} :
    line ∈ addressLines listing ↔ Lists listing line := by
  rw [addressLines, List.mem_filter, isAddressLine, Text.occursIn_iff, Lists]

theorem exists_second_word {line : Text} (long : ¬(Text.words line).length < 2) :
    ∃ first word rest, Text.words line = first :: word :: rest := by
  rcases words : Text.words line with _ | ⟨first, _ | ⟨word, rest⟩⟩
  · simp [words] at long
  · simp [words] at long
  · exact ⟨first, word, rest, rfl⟩

theorem addressWord_of_short {line : Text} (short : (Text.words line).length < 2) :
    addressWord line = .error .noSuchPlace := by
  unfold addressWord
  split
  · rename_i words
    simp only [words, List.length_cons] at short
    omega
  · rfl

theorem addressWord_of_words {line first word : Text} {rest : List Text}
    (words : Text.words line = first :: word :: rest) : addressWord line = .ok word := by
  rw [addressWord, words]

theorem cutAtSlash_of_not_mem {word : Text} (uncut : lengthMark ∉ word) :
    cutAtSlash word = .error .noSlash := by
  have all : word.dropWhile (· ≠ lengthMark) = [] := by
    rw [List.dropWhile_eq_nil_iff]
    rintro c member
    rw [decide_eq_true_iff]
    rintro rfl
    exact uncut member
  rw [cutAtSlash, all]

theorem readLine_of_short {line : Text} (short : (Text.words line).length < 2) (time : Int) :
    readLine time line = .error .noSuchPlace := by
  rw [readLine, addressWord_of_short short]
  rfl

theorem readLine_of_uncut {line first word : Text} {rest : List Text}
    (words : Text.words line = first :: word :: rest) (uncut : lengthMark ∉ word) (time : Int) :
    readLine time line = .error .noSlash := by
  rw [readLine, addressWord_of_words words]
  simp only [Bind.bind, Except.bind, cutAtSlash_of_not_mem uncut]

theorem readLine_of_places {line spelling size : Text} (places : Places line spelling size)
    (time : Int) :
    readLine time line = (do
      let address ← (Ip.V6.parse spelling).mapError .address
      let prefixLength ← readSize size
      return reported time line address prefixLength) := by
  obtain ⟨first, rest, words, clean⟩ := places
  rw [readLine, addressWord_of_words words]
  simp only [Bind.bind, Except.bind, cutAtSlash_append clean]
  rfl

theorem places_cases (line : Text) :
    (Text.words line).length < 2 ∨
      (∃ first word rest, Text.words line = first :: word :: rest ∧ lengthMark ∉ word) ∨
      ∃ spelling size, Places line spelling size := by
  by_cases short : (Text.words line).length < 2
  · exact .inl short
  obtain ⟨first, word, rest, words⟩ := exists_second_word short
  by_cases cut : lengthMark ∈ word
  · obtain ⟨spelling, size, rfl, clean⟩ := List.eq_append_cons_of_mem cut
    exact .inr (.inr ⟨spelling, size, first, rest, words, clean⟩)
  · exact .inr (.inl ⟨first, word, rest, words, cut⟩)

theorem readLine_eq_ok_iff {time : Int} {line : Text} {link : LinkAddress} :
    readLine time line = .ok link ↔ ∃ address prefixLength, Tells line address prefixLength ∧
      link = reported time line address prefixLength := by
  constructor
  · intro read
    rcases places_cases line with short | ⟨first, word, rest, words, uncut⟩ |
      ⟨spelling, size, places⟩
    · rw [readLine_of_short short] at read
      cases read
    · rw [readLine_of_uncut words uncut] at read
      cases read
    · rw [readLine_of_places places] at read
      obtain ⟨address, parsed, sizeRead⟩ := bind_eq_ok.mp read
      obtain ⟨prefixLength, sized, same⟩ := bind_eq_ok.mp sizeRead
      cases same
      have spells := Ip.V6.parse_eq_ok_iff.mp (mapError_eq_ok_iff.mp parsed)
      exact ⟨address, prefixLength, ⟨spelling, size, places, spells, sized⟩, rfl⟩
  · rintro ⟨address, prefixLength, ⟨spelling, size, places, spells, sized⟩, rfl⟩
    rw [readLine_of_places places, Ip.V6.parse_eq_ok_iff.mpr spells, sized]
    rfl

theorem readLine_eq_error_iff {time : Int} {line : Text} {fault : Fault} :
    readLine time line = .error fault ↔ LineFault line fault := by
  constructor
  · intro failed
    rcases places_cases line with short | ⟨first, word, rest, words, uncut⟩ |
      ⟨spelling, size, places⟩
    · rw [readLine_of_short short] at failed
      cases failed
      exact .noWord short
    · rw [readLine_of_uncut words uncut] at failed
      cases failed
      exact .noSlash words uncut
    · rw [readLine_of_places places] at failed
      rcases bind_eq_error.mp failed with unparsed | ⟨address, parsed, unsized⟩
      · obtain ⟨cause, unread, rfl⟩ := mapError_eq_error_iff.mp unparsed
        exact .address places unread
      · have spells := Ip.V6.parse_eq_ok_iff.mp (mapError_eq_ok_iff.mp parsed)
        rcases bind_eq_error.mp unsized with unread | ⟨prefixLength, -, ended⟩
        · exact .size places spells unread
        · cases ended
  · intro faulty
    cases faulty with
    | noWord short => exact readLine_of_short short time
    | noSlash words uncut => exact readLine_of_uncut words uncut time
    | address places unread =>
      rw [readLine_of_places places, unread]
      rfl
    | size places spells unread =>
      rw [readLine_of_places places, Ip.V6.parse_eq_ok_iff.mpr spells, unread]
      rfl

theorem readLine_isOk_iff {time : Int} {line : Text} :
    (∃ link, readLine time line = .ok link) ↔ Readable line := by
  simp only [readLine_eq_ok_iff, Readable]
  constructor
  · rintro ⟨link, address, prefixLength, tells, -⟩
    exact ⟨address, prefixLength, tells⟩
  · rintro ⟨address, prefixLength, tells⟩
    exact ⟨_, address, prefixLength, tells, rfl⟩

theorem read_eq_ok_iff {time : Int} {listing : Text} {links : List LinkAddress} :
    read time listing = .ok links ↔
      List.Forall₂ (fun line link => ∃ address prefixLength, Tells line address prefixLength ∧
        link = reported time line address prefixLength) (addressLines listing) links := by
  simp only [read, mapM_eq_ok_iff, readLine_eq_ok_iff, addressLines]

theorem read_isOk_iff {time : Int} {listing : Text} :
    (∃ links, read time listing = .ok links) ↔ ∀ line, Lists listing line → Readable line := by
  simp only [read, mapM_isOk_iff, readLine_isOk_iff, ← mem_addressLines, addressLines]

theorem read_eq_error_iff {time : Int} {listing : Text} {fault : Fault} :
    read time listing = .error fault ↔
      ∃ before line after, addressLines listing = before ++ line :: after ∧
        (∀ other ∈ before, Readable other) ∧ LineFault line fault := by
  simp only [read, mapM_eq_error_iff, readLine_isOk_iff, readLine_eq_error_iff, addressLines]

theorem Entry.tells (entry : Entry) : Tells entry.text entry.address entry.size :=
  ⟨entry.spelling, toString entry.size,
    ⟨"inet6", "scope" :: entry.scope :: entry.flags, entry.words_text,
      entry.not_mem_spelling (by decide) (by decide) (by decide)⟩,
    entry.spelled, entry.readSize_toString⟩

theorem addressLines_listing {rows : List Row} (some : rows ≠ []) :
    addressLines (listing rows) = (entries rows).map Entry.text := by
  rw [addressLines, lines_listing some, filter_isAddressLine]

theorem lists_listing_iff {rows : List Row} (some : rows ≠ []) {line : Text} :
    Lists (listing rows) line ↔ ∃ entry ∈ entries rows, entry.text = line := by
  rw [← mem_addressLines, addressLines_listing some, List.mem_map]

end ThreadLab.Listing.Addresses

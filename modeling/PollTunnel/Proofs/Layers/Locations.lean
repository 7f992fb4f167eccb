import PollTunnel.Proofs.Layers.Readable

/-!
# Where overlays lie

A location is read from its end: parts that do not count are stripped, then the last part is the
file name and what stands before it is the directory.  `Location.join` is the way back: a name that
is joined to a directory is the file name of the result, and the directory is its parent
(`fileName?_join`, `parent_join`), provided that it can be the name of a file (`IsName`).

A file name is cut at its last dot (`Splits`), and an overlay's name has the profile put in before
the cut.  So the overlay of a profile lies beside the base document under a longer name
(`isOverlay_overlay`), and no two profiles share one (`overlay_injective`, `overlayName_injective`).

An overlay's name is put together from what can be read of the two sides of the cut.  Where the file
name is a text, that is the two sides themselves (`overlayName_of_isText`).
-/

set_option autoImplicit false

namespace PollTunnel
namespace Location

/-! ## Stripping -/

theorem stripReversed_stripReversed (path : Bytes) :
    stripReversed (stripReversed path) = stripReversed path := by
  fun_induction stripReversed path with
  | case1 c rest ih => exact ih
  | case2 rest ih => exact ih
  | case3 path hslash hdot => rw [stripReversed.eq_3 path hslash hdot]

theorem strip_parent (path : Location) : strip (parent path) = parent path := by
  simp only [parent, strip, List.reverse_reverse, stripReversed_stripReversed]

/-- Nothing is stripped behind a part that counts. -/
theorem strip_append_part (before : Bytes) {part : Bytes} (hne : part ≠ [])
    (hslash : slash ∉ part) (hdot : part ≠ [dot]) : strip (before ++ part) = before ++ part := by
  obtain rfl | ⟨front, last, rfl⟩ := List.eq_nil_or_concat part
  · exact absurd rfl hne
  · have hback : (before ++ (front ++ [last])).reverse =
        last :: (front.reverse ++ before.reverse) := by
      simp
    have hlast : last ≠ slash := fun h => hslash (by simp [h])
    rw [List.concat_eq_append, strip, hback, stripReversed.eq_3, ← hback, List.reverse_reverse]
    · rintro c rest heq
      exact hlast (List.cons.inj heq).1
    · rintro rest heq
      obtain ⟨rfl, htail⟩ := List.cons.inj heq
      -- a lone dot would be stripped, and any other part goes on before its last dot
      cases hfront : front.reverse with
      | nil => exact hdot (by simpa [dot] using hfront)
      | cons c cs =>
        rw [hfront] at htail
        obtain rfl := (List.cons.inj htail).1
        have hmem : slash ∈ front := List.mem_reverse.1 (hfront ▸ List.mem_cons_self)
        exact hslash (by simp [hmem])

/-! ## Parts of a path -/

/-- What stands before a part: a whole path, or nothing. -/
def EndsPart (before : Bytes) : Prop := before = [] ∨ ∃ front, before = front ++ [slash]

theorem lastPart_append {before part : Bytes} (hbefore : EndsPart before)
    (hslash : slash ∉ part) : lastPart (before ++ part) = part := by
  have hpart : ∀ c ∈ part.reverse, (c != slash) = true := by
    intro c hc
    simpa using fun h : c = slash => hslash (h ▸ List.mem_reverse.1 hc)
  rw [lastPart, List.reverse_append, List.takeWhile_append_of_pos hpart]
  obtain rfl | ⟨front, rfl⟩ := hbefore <;> simp

theorem beforeLastPart_append {before part : Bytes} (hbefore : EndsPart before)
    (hslash : slash ∉ part) : beforeLastPart (before ++ part) = before := by
  have hpart : ∀ c ∈ part.reverse, (c != slash) = true := by
    intro c hc
    simpa using fun h : c = slash => hslash (h ▸ List.mem_reverse.1 hc)
  rw [beforeLastPart, List.reverse_append, List.dropWhile_append_of_pos hpart]
  obtain rfl | ⟨front, rfl⟩ := hbefore <;> simp

theorem slash_not_mem_lastPart (path : Bytes) : slash ∉ lastPart path := by
  intro h
  have hall := List.all_takeWhile (p := (· != slash)) (l := path.reverse)
  simpa using List.all_eq_true.1 hall slash (List.mem_reverse.1 h)

/-- What a name that is joined to a directory stands behind. -/
theorem exists_join (directory : Location) (name : Bytes) (h : strip directory = directory) :
    ∃ before, join directory name = before ++ name ∧ EndsPart before ∧
      strip before = directory := by
  rw [join]
  split
  · rename_i hopen
    refine ⟨directory, rfl, ?_, h⟩
    obtain rfl | hlast := hopen
    · exact Or.inl rfl
    · exact Or.inr (List.getLast?_eq_some_iff.1 hlast)
  · rename_i hclosed
    refine ⟨directory ++ [slash], by simp, Or.inr ⟨_, rfl⟩, ?_⟩
    -- the slash between the two is stripped again, and what it follows is not
    obtain hnil | ⟨front, last, hconcat⟩ := List.eq_nil_or_concat directory
    · exact absurd hnil (not_or.1 hclosed).1
    · rw [strip, hconcat] at h ⊢
      simpa [stripReversed, slash] using h

/-! ## File names -/

/-- Octets that a file can have as its name. -/
structure IsName (name : Bytes) : Prop where
  nonempty : name ≠ []
  noSlash : slash ∉ name
  notHere : name ≠ [dot]
  notUp : name ≠ [dot, dot]

theorem isName_of_fileName? {path : Location} {name : Bytes} (h : fileName? path = some name) :
    IsName name := by
  simp only [fileName?] at h
  split at h
  · cases h
  · rename_i hproper
    obtain rfl := Option.some.inj h
    simp only [not_or] at hproper
    exact ⟨hproper.1, slash_not_mem_lastPart _, hproper.2.1, hproper.2.2⟩

theorem strip_join {directory : Location} {name : Bytes} (h : strip directory = directory)
    (hname : IsName name) : strip (join directory name) = join directory name := by
  obtain ⟨before, hjoin, -, -⟩ := exists_join directory name h
  rw [hjoin]
  exact strip_append_part before hname.nonempty hname.noSlash hname.notHere

/-- **A name that is joined to a directory is the file name of the result.** -/
theorem fileName?_join {directory : Location} {name : Bytes} (h : strip directory = directory)
    (hname : IsName name) : fileName? (join directory name) = some name := by
  obtain ⟨before, hjoin, hbefore, -⟩ := exists_join directory name h
  have hlast : lastPart (strip (join directory name)) = name := by
    rw [strip_join h hname, hjoin, lastPart_append hbefore hname.noSlash]
  simp only [fileName?, hlast]
  exact if_neg (by simp [hname.nonempty, hname.notHere, hname.notUp])

/-- **The directory that a name is joined to is the parent of the result.** -/
theorem parent_join {directory : Location} {name : Bytes} (h : strip directory = directory)
    (hname : IsName name) : parent (join directory name) = directory := by
  obtain ⟨before, hjoin, hbefore, hstrip⟩ := exists_join directory name h
  rw [parent, strip_join h hname, hjoin, beforeLastPart_append hbefore hname.noSlash, hstrip]

/-! ## Stem and extension -/

/-- A file name is cut at its last dot, unless it has none but at its front. -/
inductive Splits : Bytes → Bytes → Option Bytes → Prop
  | dot (stem extension : Bytes) (hstem : stem ≠ []) (hlast : dot ∉ extension) :
    Splits (stem ++ dot :: extension) stem (some extension)
  | whole (name : Bytes) (hdot : dot ∉ name.tail) : Splits name name none

theorem splits_splitName {name : Bytes} (h : name ≠ [dot, dot]) :
    Splits name (splitName name).1 (splitName name).2 := by
  have hnoDot : dot ∉ name.reverse.takeWhile (· != dot) := by
    intro hmem
    simpa using List.all_eq_true.1 List.all_takeWhile dot hmem
  have hcut := List.takeWhile_append_dropWhile (p := (· != dot)) (l := name.reverse)
  have hhead := List.head?_dropWhile_not (· != dot) name.reverse
  simp only [splitName, h, false_or]
  generalize name.reverse.takeWhile (· != dot) = behind at hnoDot hcut ⊢
  generalize name.reverse.dropWhile (· != dot) = rest at hcut hhead ⊢
  obtain rfl : name = rest.reverse ++ behind.reverse := by
    rw [← List.reverse_append, hcut, List.reverse_reverse]
  cases rest with
  | nil =>
    refine .whole _ fun hdot => hnoDot ?_
    simpa using List.mem_of_mem_tail hdot
  | cons c front =>
    obtain rfl : c = dot := by simpa using hhead
    split
    · rename_i hfront
      obtain rfl : front = [] := by simpa using hfront
      exact .whole _ fun hdot => hnoDot (by simpa using hdot)
    · rename_i hfront
      have hsplits := Splits.dot front.reverse behind.reverse (by simpa using hfront)
        (by simpa using hnoDot)
      simpa using hsplits

theorem Splits.eq {name stem : Bytes} {extension : Option Bytes}
    (h : Splits name stem extension) : name = stem ++ suffix extension := by
  cases h with
  | dot => rfl
  | whole => exact (List.append_nil _).symm

/-- The two sides of a name that is a text are texts. -/
theorem Splits.isText {name stem : Bytes} {extension : Option Bytes}
    (h : Splits name stem extension) (hname : IsText name) :
    IsText stem ∧ ∀ side ∈ extension, IsText side := by
  cases h with
  | dot _ side =>
    obtain ⟨hstem, hside⟩ := isText_of_append (by decide) hname
    exact ⟨hstem, fun _ h => Option.some.inj h ▸ hside⟩
  | whole => exact ⟨hname, fun _ h => absurd h (Option.not_mem_none _)⟩

theorem splits_stem {base : Location} {name : Bytes} (h : fileName? base = some name) :
    Splits name (stem base) (extension? base) := by
  have hsplits := splits_splitName (isName_of_fileName? h).notUp
  simpa only [stem, extension?, h, Option.map_some, Option.getD_some, Option.bind_some]
    using hsplits

/-! ## Overlays -/

/-- **The name of an overlay takes over both sides of a name that is a text.** -/
theorem overlayName_of_isText {base : Location} {name : Bytes} (h : fileName? base = some name)
    (hname : IsText name) (profile : String) : overlayName base profile =
      stem base ++ Bytes.ofString ("-" ++ profile) ++ suffix (extension? base) := by
  obtain ⟨hstem, hextension⟩ := (splits_stem h).isText hname
  have hsuffix : (extension? base).map readable = extension? base := by
    cases hside : extension? base with
    | none => rfl
    | some side => exact congrArg some (readable_of_isText (hextension side hside))
  rw [overlayName, readable_of_isText hstem, hsuffix]

theorem ofString_injective : Function.Injective Bytes.ofString := by
  intro p q h
  have hdecode := congrArg Utf8.decode? h
  rw [Utf8.decode?_ofString, Utf8.decode?_ofString] at hdecode
  exact Option.some.inj hdecode

theorem overlayName_injective (base : Location) : Function.Injective (overlayName base) := by
  intro p q h
  have hmiddle := List.append_cancel_left (List.append_cancel_right h)
  simpa using ofString_injective hmiddle

theorem join_injective (directory : Location) : Function.Injective (join directory) := by
  intro p q h
  simp only [join] at h
  split at h <;> simpa using h

/-- **No two profiles share an overlay**, whatever the base document is. -/
theorem overlay_injective (base : Location) : Function.Injective (overlay base) := by
  intro p q h
  simp only [overlay] at h
  exact overlayName_injective base (join_injective _ h)

theorem join_ne {directory : Location} {name : Bytes} (h : name ≠ []) :
    join directory name ≠ directory := by
  intro heq
  have hlength := congrArg List.length heq
  have hpos : name.length ≠ 0 := fun hzero => h (List.length_eq_zero_iff.1 hzero)
  simp only [join] at hlength
  split at hlength <;> simp only [List.length_append, List.length_cons] at hlength <;> omega

theorem dash_mem_overlayName (base : Location) (profile : String) :
    0x2D ∈ overlayName base profile := by
  have hdash : (0x2D : UInt8) ∈ Bytes.ofString ("-" ++ profile) := by
    rw [Bytes.ofString, String.toList_append, List.flatMap_append]
    exact List.mem_append_left _ (by decide)
  simp [overlayName, hdash]

/-- An overlay's name is longer than that of the base document. -/
theorem length_overlayName {base : Location} {name : Bytes} (h : fileName? base = some name)
    (profile : String) : name.length < (overlayName base profile).length := by
  have hmiddle : 0 < (Bytes.ofString ("-" ++ profile)).length := by
    rw [Bytes.ofString, String.toList_append, List.flatMap_append, List.length_append]
    exact Nat.lt_of_lt_of_le (by decide : 0 < ("-".toList.flatMap String.utf8EncodeChar).length)
      (Nat.le_add_right _ _)
  have hstem := length_le_readable (stem base)
  have hsuffix : (suffix (extension? base)).length ≤
      (suffix ((extension? base).map readable)).length := by
    cases extension? base with
    | none => exact Nat.le_refl _
    | some side => exact Nat.succ_le_succ (length_le_readable side)
  rw [(splits_stem h).eq, overlayName]
  simp only [List.length_append]
  omega

/-- An octet of ASCII in an overlay's name is one of the base document's name or of what the profile
puts in. -/
theorem mem_overlayName {base : Location} {name : Bytes} (h : fileName? base = some name)
    {profile : String} {a : UInt8} (ha : a.toNat < 0x80) (hmem : a ∈ overlayName base profile) :
    a ∈ name ∨ a ∈ Bytes.ofString ("-" ++ profile) := by
  rw [(splits_stem h).eq]
  simp only [overlayName, List.mem_append] at hmem ⊢
  obtain (hstem | hprofile) | hsuffix := hmem
  · exact Or.inl (Or.inl (mem_of_mem_readable ha hstem))
  · exact Or.inr hprofile
  · left; right
    cases hside : extension? base with
    | none => simp [hside, suffix] at hsuffix
    | some side =>
      rw [hside, Option.map_some, suffix, List.mem_cons] at hsuffix
      exact List.mem_cons.2 (hsuffix.imp id (mem_of_mem_readable ha))

/-- The name of an overlay is one that a file can have if the profile has no slash. -/
theorem isName_overlayName {base : Location} {name : Bytes} {profile : String}
    (h : fileName? base = some name) (hprofile : '/' ∉ profile.toList) :
    IsName (overlayName base profile) := by
  have hdash := dash_mem_overlayName base profile
  refine ⟨List.ne_nil_of_mem hdash, fun hslash => ?_, ?_, ?_⟩
  · obtain hname | hmiddle := mem_overlayName h (by decide) hslash
    · exact (isName_of_fileName? h).noSlash hname
    · have hchar := Bytes.mem_of_mem_ofString (by decide) hmiddle
      rw [String.toList_append, List.mem_append] at hchar
      exact hchar.elim (by decide) hprofile
  · rintro heq
    rw [heq] at hdash
    exact absurd hdash (by decide)
  · rintro heq
    rw [heq] at hdash
    exact absurd hdash (by decide)

/-- A location is where the document of a profile lies: beside the base document, under its stem, a
hyphen, the profile and its extension, which is another name. -/
structure IsOverlay (base : Location) (profile : String) (location : Location) : Prop where
  parent : parent location = parent base
  name : fileName? location = some (overlayName base profile)
  other : fileName? location ≠ fileName? base

/-- **An overlay lies beside its base document.** -/
theorem isOverlay_overlay {base : Location} {name : Bytes} {profile : String}
    (h : fileName? base = some name) (hprofile : '/' ∉ profile.toList) :
    IsOverlay base profile (overlay base profile) := by
  have hname := isName_overlayName h hprofile
  have hjoin : overlay base profile = join (parent base) (overlayName base profile) := by
    rw [overlay, h]
    rfl
  have hfile : fileName? (overlay base profile) = some (overlayName base profile) :=
    hjoin ▸ fileName?_join (strip_parent base) hname
  refine ⟨hjoin ▸ parent_join (strip_parent base) hname, hfile, ?_⟩
  rw [hfile, h]
  intro heq
  have hlonger := length_overlayName h profile
  rw [Option.some.inj heq] at hlonger
  exact Nat.lt_irrefl _ hlonger

/-- No overlay is the base document itself, also where that has no file name. -/
theorem overlay_ne {base : Location} {profile : String} (h : '/' ∉ profile.toList) :
    overlay base profile ≠ base := by
  cases hbase : fileName? base with
  | some name => exact fun heq => (isOverlay_overlay hbase h).other (congrArg fileName? heq)
  | none =>
    rw [overlay, hbase]
    exact join_ne (List.ne_nil_of_mem (dash_mem_overlayName base profile))

end Location
end PollTunnel

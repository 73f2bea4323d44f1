import SupvanCups.NodeOwnership
import SupvanCups.SeparatedWords

/-!
# Slugs are well formed and stable

A slug is the words of a name, its runs of ASCII letters and digits in lower
case, joined by single hyphens.  A slug of a slug is the same slug, so that a
printer that is registered under its slug is found under any URI made from it.
-/

namespace SupvanCups

/-- An ASCII lower-case letter or digit. -/
def IsSlugChar (c : Char) : Prop :=
  c.isLower ∨ c.isDigit

def IsSlugWord (word : List Char) : Prop :=
  word ≠ [] ∧ ∀ c ∈ word, IsSlugChar c

/-- Words of letters and digits, joined by single hyphens. -/
def HyphenGroups (text : String) : Prop :=
  ∃ words : List (List Char), words ≠ [] ∧ (∀ word ∈ words, IsSlugWord word) ∧
    text.toList = List.intercalate ['-'] words

/-! ### The characters of a slug -/

theorem isLower_iff {c : Char} :
    c.isLower ↔ 97 ≤ c.toNat ∧ c.toNat ≤ 122 := by
  show (decide (c.val ≥ 'a'.val) && decide (c.val ≤ 'z'.val)) = true ↔ _
  rw [Bool.and_eq_true, decide_eq_true_iff, decide_eq_true_iff]
  rfl

theorem isUpper_iff {c : Char} :
    c.isUpper ↔ 65 ≤ c.toNat ∧ c.toNat ≤ 90 :=
  decide_eq_true_iff

theorem isLower_toLower {c : Char} (letter : c.isAlpha) :
    c.toLower.isLower := by
  unfold Char.toLower
  split
  · rename_i upper
    have bounds : 65 ≤ c.val.toNat ∧ c.val.toNat ≤ 90 := upper
    have shift : ('a'.val - 'A'.val).toNat = 32 := rfl
    rw [isLower_iff]
    show 97 ≤ (c.val + ('a'.val - 'A'.val)).toNat ∧
      (c.val + ('a'.val - 'A'.val)).toNat ≤ 122
    rw [UInt32.toNat_add, shift]
    omega
  · rename_i notUpper
    rcases Bool.or_eq_true_iff.mp letter with upper | lower
    · exact absurd (isUpper_iff.mp upper) notUpper
    · exact lower

theorem toLower_of_not_isUpper {c : Char} (notUpper : ¬ c.isUpper) :
    c.toLower = c := by
  unfold Char.toLower
  exact dif_neg fun range => notUpper (isUpper_iff.mpr range)

theorem not_isUpper_of_isSlugChar {c : Char} (slugChar : IsSlugChar c) :
    ¬ c.isUpper := by
  rw [isUpper_iff]
  rcases slugChar with lower | digit
  · rw [isLower_iff] at lower
    omega
  · have bounds : 48 ≤ c.toNat ∧ c.toNat ≤ 57 :=
      Char.isDigit_iff_toNat.mp digit
    omega

theorem isSlugChar_toLower {c : Char} (alphanumeric : c.isAlphanum) :
    IsSlugChar c.toLower := by
  rcases Bool.or_eq_true_iff.mp alphanumeric with letter | digit
  · exact .inl (isLower_toLower letter)
  · rw [toLower_of_not_isUpper (not_isUpper_of_isSlugChar (.inr digit))]
    exact .inr digit

theorem toLower_of_isSlugChar {c : Char} (slugChar : IsSlugChar c) :
    c.isAlphanum ∧ c.toLower = c := by
  refine ⟨Bool.or_eq_true_iff.mpr (slugChar.imp_left fun lower => ?_),
    toLower_of_not_isUpper (not_isUpper_of_isSlugChar slugChar)⟩
  exact Bool.or_eq_true_iff.mpr (.inr lower)

theorem ne_hyphen_of_isSlugChar {c : Char} (slugChar : IsSlugChar c) :
    c ≠ '-' := by
  rintro rfl
  exact absurd slugChar (by unfold IsSlugChar; decide)

section Words

variable {words : List (List Char)} (slugWord : ∀ word ∈ words, IsSlugWord word)

include slugWord

theorem hyphen_notMem_of_isSlugWord : ∀ word ∈ words, '-' ∉ word :=
  fun word member hyphen =>
    ne_hyphen_of_isSlugChar ((slugWord word member).2 '-' hyphen) rfl

theorem wordsBetween_of_isSlugWord :
    wordsBetween '-' (List.intercalate ['-'] words) = words :=
  wordsBetween_intercalate (fun word member => (slugWord word member).1)
    (hyphen_notMem_of_isSlugWord slugWord)

theorem intercalate_ne_nil (some : words ≠ []) :
    List.intercalate ['-'] words ≠ [] := by
  rw [Ne, intercalate_eq_nil_iff (fun word member => (slugWord word member).1)
    (hyphen_notMem_of_isSlugWord slugWord)]
  exact some

theorem isSlugChar_of_mem_intercalate {c : Char}
    (member : c ∈ List.intercalate ['-'] words) (notHyphen : c ≠ '-') :
    IsSlugChar c := by
  have kept : c ∈ (List.intercalate ['-'] words).filter (· ≠ '-') :=
    List.mem_filter.mpr ⟨member, decide_eq_true notHyphen⟩
  rw [filter_intercalate (hyphen_notMem_of_isSlugWord slugWord)] at kept
  obtain ⟨word, inWords, inWord⟩ := List.mem_flatten.mp kept
  exact (slugWord word inWords).2 c inWord

end Words

/-! ### The words of a slug -/

/-- The words that `slug` joins. -/
def slugWords (name : String) : List (List Char) :=
  wordsBetween '-' (slugChars name)

theorem slug_eq (name : String) :
    slug name = if (List.intercalate ['-'] (slugWords name)).isEmpty then
      "printer" else .ofList (List.intercalate ['-'] (slugWords name)) :=
  rfl

theorem isSlugChar_of_mem_slugChars {name : String} {c : Char}
    (member : c ∈ slugChars name) (notHyphen : c ≠ '-') : IsSlugChar c := by
  obtain ⟨source, -, rfl⟩ := List.mem_map.mp member
  split_ifs at notHyphen ⊢ with alphanumeric
  · exact isSlugChar_toLower alphanumeric
  · exact absurd rfl notHyphen

theorem flatten_slugWords (name : String) :
    (slugWords name).flatten =
      (name.toList.filter Char.isAlphanum).map Char.toLower := by
  rw [slugWords, flatten_wordsBetween, slugChars]
  induction name.toList with
  | nil => rfl
  | cons c chars ih =>
      rw [List.map_cons]
      by_cases alphanumeric : c.isAlphanum = true
      · have kept := ne_hyphen_of_isSlugChar (isSlugChar_toLower alphanumeric)
        rw [if_pos alphanumeric, List.filter_cons_of_pos (by simpa using kept),
          List.filter_cons_of_pos alphanumeric, List.map_cons, ih]
      · rw [if_neg alphanumeric, List.filter_cons_of_neg (by simp),
          List.filter_cons_of_neg alphanumeric, ih]

theorem isSlugWord_of_mem_slugWords {name : String} :
    ∀ word ∈ slugWords name, IsSlugWord word := by
  intro word member
  refine ⟨ne_nil_of_mem_wordsBetween member, ?_⟩
  intro c inWord
  have notHyphen : c ≠ '-' := by
    rintro rfl
    exact sep_notMem_of_mem_wordsBetween member inWord
  have flattened : c ∈ (slugWords name).flatten :=
    List.mem_flatten.mpr ⟨word, member, inWord⟩
  rw [slugWords, flatten_wordsBetween] at flattened
  exact isSlugChar_of_mem_slugChars (List.mem_of_mem_filter flattened) notHyphen

theorem slugWords_eq_nil_iff {name : String} :
    slugWords name = [] ↔ ∀ c ∈ name.toList, ¬ c.isAlphanum := by
  have flat := flatten_slugWords name
  rw [slugWords] at flat ⊢
  rw [wordsBetween_eq_nil_iff, flat, List.map_eq_nil_iff,
    List.filter_eq_nil_iff]

theorem slug_of_words {name : String} (words : slugWords name ≠ []) :
    (slug name).toList = List.intercalate ['-'] (slugWords name) := by
  have joined := intercalate_ne_nil isSlugWord_of_mem_slugWords words
  rw [slug_eq, if_neg (by simpa using joined), String.toList_ofList]

theorem slug_of_noWords {name : String} (none : slugWords name = []) :
    slug name = "printer" := by
  rw [slug_eq, none]
  rfl

/-! ### The laws -/

theorem hyphenGroups_printer : HyphenGroups "printer" := by
  refine ⟨[['p', 'r', 'i', 'n', 't', 'e', 'r']], List.cons_ne_nil _ _, ?_, rfl⟩
  intro word member
  rw [List.mem_singleton.mp member]
  exact ⟨List.cons_ne_nil _ _, by simp [IsSlugChar]⟩

theorem hyphenGroups_slug (name : String) : HyphenGroups (slug name) := by
  by_cases none : slugWords name = []
  · rw [slug_of_noWords none]
    exact hyphenGroups_printer
  · exact ⟨slugWords name, none, isSlugWord_of_mem_slugWords,
      slug_of_words none⟩

theorem HyphenGroups.ne_empty {text : String} (groups : HyphenGroups text) :
    text ≠ "" := by
  rintro rfl
  obtain ⟨words, some, slugWord, joined⟩ := groups
  exact intercalate_ne_nil slugWord some joined.symm

theorem HyphenGroups.slugChars_eq {text : String} (groups : HyphenGroups text) :
    slugChars text = text.toList := by
  obtain ⟨words, -, slugWord, joined⟩ := groups
  refine (List.map_congr_left ?_).trans (List.map_id _)
  intro c member
  rw [id]
  by_cases hyphen : c = '-'
  · rw [hyphen]
    rfl
  · rw [joined] at member
    obtain ⟨alphanumeric, lower⟩ := toLower_of_isSlugChar
      (isSlugChar_of_mem_intercalate slugWord member hyphen)
    rw [if_pos alphanumeric, lower]

/-- Text that is already in groups is its own slug. -/
theorem HyphenGroups.slug_eq_self {text : String} (groups : HyphenGroups text) :
    slug text = text := by
  have same := groups.slugChars_eq
  obtain ⟨words, some, slugWord, joined⟩ := groups
  have resplit : slugWords text = words := by
    rw [slugWords, same, joined, wordsBetween_of_isSlugWord slugWord]
  rw [← String.toList_inj, slug_of_words (resplit ▸ some), resplit, joined]

/-- Without its hyphens a slug is the letters and digits of the name, in lower
case. -/
theorem filter_slug {name : String} (some : ∃ c ∈ name.toList, c.isAlphanum) :
    (slug name).toList.filter (· ≠ '-') =
      (name.toList.filter Char.isAlphanum).map Char.toLower := by
  have words : slugWords name ≠ [] := by
    rw [Ne, slugWords_eq_nil_iff]
    push Not
    exact some
  rw [slug_of_words words, filter_intercalate
    (hyphen_notMem_of_isSlugWord isSlugWord_of_mem_slugWords),
    flatten_slugWords]

/-! ### What a slug resolves to -/

/-- Opening the URI looks one slug up and goes on with the given entry. -/
def ResolvesTo (map : SupvanMap) (uri : String) (entry : SupvanTransports) :
    Prop :=
  ∃ s, map[s]? = some entry ∧
    ∀ (bleFeature : Bool) (device : Device HostCall HostReply) history,
      (∀ past key, device past (.transports key) = .transports map[key]?) →
        (openSupvan bleFeature uri).run device history =
          (openEntry bleFeature entry).run device
            (history ++ [(.transports s, .transports (some entry))])

theorem resolvesTo_of_registered {map : SupvanMap} {s : String}
    {entry : SupvanTransports} (registered : map[s]? = some entry) :
    ResolvesTo map ("supvan://" ++ s) entry := by
  refine ⟨s, registered, ?_⟩
  intro bleFeature device history serves
  rw [run_openSupvan bleFeature serves, registered]
  rfl

/-- The map after printers are registered, each under its slug. -/
def registerAll (map : SupvanMap)
    (registrations : List (String × SupvanTransports)) : SupvanMap :=
  registrations.foldl (fun m r => registerSupvan m r.1 r.2) map

theorem getElem?_registerAll {map : SupvanMap} {s : String}
    {registrations : List (String × SupvanTransports)}
    (others : ∀ r ∈ registrations, r.1 ≠ s) :
    (registerAll map registrations)[s]? = map[s]? := by
  have none : latest Prod.fst registrations s = none := by
    rw [← Option.isNone_iff_eq_none, latest_isNone]
    exact others
  rw [registerAll, getElem?_foldl_registerSupvan Prod.fst Prod.snd, none,
    Option.elim_none]

/-- Slugs are well formed and stable, and lead to what is registered. -/
structure SlugLaws (name : String) : Prop where
  nonempty : slug name ≠ ""
  groups : HyphenGroups (slug name)
  /-- The letters and digits of the name are kept, in order. -/
  kept : (∃ c ∈ name.toList, c.isAlphanum) →
    (slug name).toList.filter (· ≠ '-') =
      (name.toList.filter Char.isAlphanum).map Char.toLower
  fallback : (∀ c ∈ name.toList, ¬ c.isAlphanum) → slug name = "printer"
  stable : slug (slug name) = slug name
  /-- A URI made from the slug, or from the slug of the slug, resolves to what
  was last registered under it. -/
  resolves : ∀ (map : SupvanMap) entry later,
    (∀ r ∈ later, r.1 ≠ slug name) → ∀ made ∈ [name, slug name],
      ResolvesTo
        (registerAll (registerSupvan map (slug name) entry) later)
        ("supvan://" ++ slug made) entry

theorem slugLaws (name : String) : SlugLaws name := by
  have groups := hyphenGroups_slug name
  refine ⟨groups.ne_empty, groups, filter_slug, ?_, groups.slug_eq_self, ?_⟩
  · exact fun none => slug_of_noWords (slugWords_eq_nil_iff.mpr none)
  · intro map entry later others made member
    have same : slug made = slug name := by
      obtain rfl | rfl := List.mem_pair.mp member
      · rfl
      · exact groups.slug_eq_self
    rw [same]
    apply resolvesTo_of_registered
    rw [getElem?_registerAll others, registerSupvan,
      Std.TreeMap.getElem?_insert_self]

example : slug "--T50M Pro (A)" = "t50m-pro-a" :=
  rfl

end SupvanCups

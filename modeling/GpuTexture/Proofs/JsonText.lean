import Mathlib
import GpuTexture.Json.Printer
import GpuTexture.Json.Reader

/-!
# Reading back printed JSON

A printed value is cut into the tokens that it is made of, and these build the value again, with the
members of its objects in the order of their names.
-/

namespace GpuTexture

namespace Json

/-! ## Quoted texts -/

private theorem escapeChar_digits_eq {code : Nat} (hcode : code < 32) :
    List.replicate (4 - (Nat.toDigits 16 code).length) '0' ++ Nat.toDigits 16 code =
      ['0', '0', Nat.digitChar (code / 16), Nat.digitChar (code % 16)] := by
  revert code
  decide

private theorem ofHex?_digits {code : Nat} (hcode : code < 32) :
    ofHex? ['0', '0', Nat.digitChar (code / 16), Nat.digitChar (code % 16)] =
      some (Char.ofNat code) := by
  revert code
  decide

private theorem readQuoted_escapeChar (c : Char) (rest : List Char) :
    readQuoted ((escapeChar c).toList ++ rest) =
      (readQuoted rest).map (Prod.map (c :: ·) id) := by
  unfold escapeChar
  split_ifs with hquote hslash hline hreturn htab hback hfeed hcontrol
  · subst hquote; rfl
  · subst hslash; rfl
  · subst hline; rfl
  · subst hreturn; rfl
  · subst htab; rfl
  · subst hback; rfl
  · subst hfeed; rfl
  · have hread := ofHex?_digits hcontrol
    rw [Char.ofNat_toNat] at hread
    dsimp only
    simp only [String.toList_append, String.toList_ofList, escapeChar_digits_eq hcontrol]
    change (ofHex? _).bind _ = _
    rw [hread, Option.bind_some]
    rfl
  · -- Any other character stands for itself.
    have hplain : c.toString.toList ++ rest = c :: rest := by
      simp [Char.toString]
    rw [hplain, readQuoted]
    · exact if_neg hcontrol
    all_goals simp_all

private theorem readQuoted_quoted (text : String) (rest : List Char) :
    readQuoted ((String.join (text.toList.map escapeChar)).toList ++ '"' :: rest) =
      some (text.toList, rest) := by
  induction text.toList with
  | nil => simp; rfl
  | cons c chars ih =>
    rw [List.map_cons, String.join_cons, String.toList_append, List.append_assoc,
      readQuoted_escapeChar, ih]
    rfl

/-! ## Tokens -/

/-- What stands behind a word keeps it apart. -/
def Ends (rest : List Char) : Prop :=
  ∀ c ∈ rest.head?, isWordChar c = false

private theorem lex_blank {c : Char} (hblank : isBlank c = true) (rest : List Char) :
    lex (c :: rest) = lex rest := by
  rw [lex, if_pos hblank]

private theorem lex_blanks {blanks : List Char} (hblank : ∀ c ∈ blanks, isBlank c = true)
    (rest : List Char) : lex (blanks ++ rest) = lex rest := by
  induction blanks with
  | nil => rfl
  | cons c blanks ih =>
    rw [List.cons_append, lex_blank (hblank c List.mem_cons_self),
      ih fun other hother => hblank other (List.mem_cons_of_mem _ hother)]

private theorem lex_mark {c : Char} {mark : Token} (hmark : Token.ofMark? c = some mark)
    (hblank : isBlank c = false) (rest : List Char) :
    lex (c :: rest) = (lex rest).map (mark :: ·) := by
  rw [lex, hblank, hmark]
  rfl

theorem lex_quoted (text : String) (rest : List Char) :
    lex ((quoted text).toList ++ rest) = (lex rest).map (.value (.string text) :: ·) := by
  have hread := readQuoted_quoted text rest
  have hchars : (quoted text).toList ++ rest =
      '"' :: ((String.join (text.toList.map escapeChar)).toList ++ '"' :: rest) := by
    simp [quoted]
  rw [hchars, lex, if_neg (by decide)]
  change (if '"' = '"' then _ else _) = _
  rw [if_pos rfl]
  split
  · next hfound =>
    rw [hread] at hfound
    cases hfound
    rw [String.ofList_toList]
  · next hfound =>
    rw [hread] at hfound
    cases hfound

private theorem not_special_of_isWordChar {c : Char} (hword : isWordChar c = true) :
    isBlank c = false ∧ Token.ofMark? c = none ∧ c ≠ '"' := by
  refine ⟨?_, ?_, ?_⟩
  · simp only [isBlank, Bool.or_eq_false_iff, decide_eq_false_iff_not]
    refine ⟨⟨⟨?_, ?_⟩, ?_⟩, ?_⟩
    all_goals
      rintro rfl
      revert hword
      decide
  · unfold Token.ofMark?
    split
    all_goals first | rfl | (revert hword; decide)
  · rintro rfl
    revert hword
    decide

theorem lex_word {word : List Char} (hne : word ≠ []) (hword : ∀ c ∈ word, isWordChar c = true)
    {rest : List Char} (hends : Ends rest) :
    lex (word ++ rest) =
      (Token.ofWord? (String.ofList word)).bind fun token => (lex rest).map (token :: ·) := by
  obtain ⟨c, tail, rfl⟩ := List.exists_cons_of_ne_nil hne
  obtain ⟨hblank, hmark, hquote⟩ := not_special_of_isWordChar (hword c List.mem_cons_self)
  have htake : rest.takeWhile isWordChar = [] := by
    cases rest with
    | nil => rfl
    | cons other rest => rw [List.takeWhile_cons_of_neg]; simp [hends other rfl]
  have hdrop : rest.dropWhile isWordChar = rest := by
    cases rest with
    | nil => rfl
    | cons other rest => rw [List.dropWhile_cons_of_neg]; simp [hends other rfl]
  have htail : ∀ c ∈ tail, isWordChar c = true := fun c hc => hword c (List.mem_cons_of_mem _ hc)
  rw [List.cons_append, lex, hblank, hmark, if_neg hquote, ← List.cons_append,
    List.takeWhile_append_of_pos hword, htake, List.append_nil,
    List.dropWhile_append_of_pos htail, hdrop]
  rfl

/-! ## Printed values -/

/-- All numbers of a value are integers that 64 bits hold, signed or not, and no object has two
members of one name. -/
inductive IsPlain : Json → Prop
  | null : IsPlain .null
  | bool (value : Bool) : IsPlain (.bool value)
  | integer {value : Int} (hlow : -2 ^ 63 ≤ value) (hhigh : value < 2 ^ 64) :
    IsPlain (.integer value)
  | string (text : String) : IsPlain (.string text)
  | array {items : List Json} (hitems : ∀ item ∈ items, IsPlain item) : IsPlain (.array items)
  | object {members : List (String × Json)} (hnames : (members.map Prod.fst).Nodup)
    (hmembers : ∀ member ∈ members, IsPlain member.2) : IsPlain (.object members)

def inOrder {α : Type} (members : List (String × α)) : List (String × α) :=
  members.mergeSort fun a b => !(b.1 < a.1)

private theorem sizeOf_lt_of_mem {members : List (String × Json)} {member : String × Json}
    (hmember : member ∈ members) : sizeOf member.2 < sizeOf (object members) := by
  have hsize := List.sizeOf_lt_of_mem hmember
  obtain ⟨name, value⟩ := member
  rw [Prod.mk.sizeOf_spec] at hsize
  rw [object.sizeOf_spec]
  dsimp only
  omega

/-- A value with the members of all its objects in the order of their names. -/
def sorted : Json → Json
  | .array items => .array (items.map sorted)
  | .object members => .object (inOrder (members.map fun member => (member.1, sorted member.2)))
  | json => json
decreasing_by
  · decreasing_tactic
  · exact sizeOf_lt_of_mem ‹_›

def tokens : Json → List Token
  | .array items => .openArray :: [.comma].intercalate (items.map tokens) ++ [.closeArray]
  | .object members =>
    .openObject :: [.comma].intercalate (members.map fun member =>
      .value (.string member.1) :: .colon :: tokens member.2) ++ [.closeObject]
  | json => [.value json]
decreasing_by
  · decreasing_tactic
  · exact sizeOf_lt_of_mem ‹_›

private theorem prettyItems_eq_map (depth : Nat) (items : List Json) :
    prettyItems depth items = items.map (prettyAt depth) := by
  induction items with
  | nil => rfl
  | cons item rest ih => rw [prettyItems, ih, List.map_cons]

private theorem prettyMembers_eq_map (depth : Nat) (members : List (String × Json)) :
    prettyMembers depth members = members.map fun member => (member.1, prettyAt depth member.2) := by
  induction members with
  | nil => rfl
  | cons member rest ih =>
    obtain ⟨name, value⟩ := member
    rw [prettyMembers, ih, List.map_cons]

section Order

variable {α β : Type} {members : List (String × α)}

private theorem inOrder_map (members : List (String × α)) (change : α → β) :
    inOrder (members.map fun member => (member.1, change member.2)) =
      (inOrder members).map fun member => (member.1, change member.2) :=
  (List.map_mergeSort (f := fun member : String × α => (member.1, change member.2))
    fun _ _ _ _ => rfl).symm

theorem mem_inOrder {member : String × α} : member ∈ inOrder members ↔ member ∈ members :=
  (List.mergeSort_perm _ _).mem_iff

theorem nodup_inOrder :
    ((inOrder members).map Prod.fst).Nodup ↔ (members.map Prod.fst).Nodup :=
  ((List.mergeSort_perm _ _).map Prod.fst).nodup_iff

end Order

/-- A text is cut into the given tokens, whatever stands apart behind it. -/
def Spells (text : List Char) (tokens : List Token) : Prop :=
  ∀ rest, Ends rest → lex (text ++ rest) = (lex rest).map (tokens ++ ·)

private theorem spells_word {word : String} {json : Json} (hne : word.toList ≠ [])
    (hword : ∀ c ∈ word.toList, isWordChar c = true)
    (hvalue : Token.ofWord? word = some (.value json)) : Spells word.toList [.value json] := by
  intro rest hends
  rw [lex_word hne hword hends, String.ofList_toList, hvalue]
  rfl

private theorem isDigit_of_mem_natRepr {value : Nat} {c : Char} (hc : c ∈ value.repr.toList) :
    c.isDigit = true := by
  rw [Nat.repr_eq_ofList_toDigits, String.toList_ofList] at hc
  exact Nat.isDigit_of_mem_toDigits (by decide) (by decide) hc

private theorem isDigit_of_mem_repr {value : Int} {c : Char} (hc : c ∈ value.repr.toList) :
    c.isDigit = true ∨ c = '-' := by
  rw [Int.repr_eq_if] at hc
  split at hc
  · exact .inl (isDigit_of_mem_natRepr hc)
  · rw [String.toList_append] at hc
    rcases List.mem_append.mp hc with hsign | hdigit
    · exact .inr (List.mem_singleton.mp hsign)
    · exact .inl (isDigit_of_mem_natRepr hdigit)

private theorem toList_repr_ne_nil (value : Int) : value.repr.toList ≠ [] := by
  rw [Int.repr_eq_if]
  split
  · rw [Nat.repr_eq_ofList_toDigits, String.toList_ofList]
    exact Nat.toDigits_ne_nil
  · rw [String.toList_append]
    exact List.append_ne_nil_of_left_ne_nil (by decide) _

private theorem spells_integer (value : Int) : Spells (toString value).toList
    [.value (.integer value)] := by
  have hrepr : toString value = value.repr := rfl
  have hliteral : ∀ {word : String} {c : Char}, c ∈ word.toList →
      ¬ (c.isDigit = true ∨ c = '-') → value.repr ≠ word := by
    intro word c hc hother heq
    rw [← heq] at hc
    exact hother (isDigit_of_mem_repr hc)
  have hnull : value.repr ≠ "null" := hliteral (c := 'l') (by simp) (by decide)
  have htrue : value.repr ≠ "true" := hliteral (c := 'e') (by simp) (by decide)
  have hfalse : value.repr ≠ "false" := hliteral (c := 'e') (by simp) (by decide)
  rw [hrepr]
  apply spells_word (toList_repr_ne_nil value)
  · intro c hc
    rcases isDigit_of_mem_repr hc with hdigit | rfl
    · simp [isWordChar, Char.isAlphanum, hdigit]
    · rfl
  · rw [Token.ofWord?, if_neg hnull, if_neg htrue, if_neg hfalse, Int.toInt?_repr]
    rfl

private theorem ends_cons {c : Char} (hother : isWordChar c = false) (rest : List Char) : Ends
    (c :: rest) := by
  intro head hhead
  cases hhead
  exact hother

private theorem spells_lines {α : Type} {line : α → List Char} {tokensOf : α → List Token}
    {blanks : List Char} (hblanks : ∀ c ∈ blanks, isBlank c = true) {items : List α}
    (hitems : ∀ item ∈ items, Spells (line item) (tokensOf item)) :
    Spells ([',', '\n'].intercalate (items.map fun item => blanks ++ line item))
      ([.comma].intercalate (items.map tokensOf)) := by
  induction items with
  | nil =>
    intro rest hends
    simp
  | cons item others ih =>
    intro rest hends
    have hfirst := hitems item List.mem_cons_self
    have hothers := ih fun other hother => hitems other (List.mem_cons_of_mem _ hother)
    cases others with
    | nil =>
      simp only [List.map_cons, List.map_nil, List.intercalate_singleton, List.append_assoc]
      rw [lex_blanks hblanks, hfirst rest hends]
    | cons next others =>
      have hcomma : Token.ofMark? ',' = some .comma := rfl
      simp only [List.map_cons, List.intercalate_cons_cons, List.append_assoc, List.cons_append,
        List.nil_append] at hothers ⊢
      -- The comma keeps the first line apart from the others.
      rw [lex_blanks hblanks, hfirst _ (ends_cons (by decide) _), lex_mark hcomma (by decide),
        lex_blank (by decide), hothers rest hends]
      simp only [Option.map_map, Function.comp_def]

private theorem isBlank_of_mem_indent {depth : Nat} {c : Char} (hc : c ∈ (indent depth).toList) :
    isBlank c = true := by
  rw [indent, String.toList_ofList] at hc
  rw [List.eq_of_mem_replicate hc]
  rfl

private theorem spells_bracketed {opening closing : String} {first last : Char}
    {opened closed : Token} (hopening : opening.toList = [first])
    (hclosing : closing.toList = [last])
    (hopened : Token.ofMark? first = some opened) (hclosed : Token.ofMark? last = some closed)
    (hfirst : isBlank first = false) (hlast : isBlank last = false) {α : Type} {line : α → String}
    {tokensOf : α → List Token} {items : List α}
    (hitems : ∀ item ∈ items, Spells (line item).toList (tokensOf item)) (depth : Nat) :
    Spells (bracketed opening closing depth (items.map line)).toList
      (opened :: [.comma].intercalate (items.map tokensOf) ++ [closed]) := by
  intro rest hends
  have hclose : lex (last :: rest) = (lex rest).map (closed :: ·) := lex_mark hclosed hlast rest
  unfold bracketed
  cases items with
  | nil =>
    simp [hopening, hclosing, lex_mark hopened hfirst, hclose, Function.comp_def]
  | cons item others =>
    have hblanks : ∀ c ∈ (indent (depth + 1)).toList, isBlank c = true :=
      fun c hc => isBlank_of_mem_indent hc
    have hlines := spells_lines hblanks hitems ('\n' :: ((indent depth).toList ++ last :: rest))
      (ends_cons (by decide) _)
    rw [lex_blank (by decide), lex_blanks (fun c hc => isBlank_of_mem_indent hc), hclose] at hlines
    simp only [List.map_cons, List.isEmpty_cons, Bool.false_eq_true, if_false] at hlines ⊢
    simp only [String.toList_append, String.toList_intercalate, List.map_cons, List.map_map,
      Function.comp_def, hopening, hclosing, List.append_assoc, List.cons_append, List.nil_append]
    change lex (first :: '\n' :: ([',', '\n'].intercalate _ ++
      '\n' :: ((indent depth).toList ++ last :: rest))) = _
    rw [lex_mark hopened hfirst, lex_blank (by decide), hlines]
    simp only [Option.map_map, Function.comp_def]

theorem spells_prettyAt {json : Json} (hplain : json.IsPlain) (depth : Nat) :
    Spells (prettyAt depth json).toList json.sorted.tokens := by
  induction hplain generalizing depth with
  | null =>
    simp only [prettyAt, sorted, tokens]
    exact spells_word (by simp) (by simp; decide) rfl
  | bool value =>
    simp only [prettyAt, sorted, tokens]
    cases value
    · exact spells_word (by simp) (by simp; decide) rfl
    · exact spells_word (by simp) (by simp; decide) rfl
  | @integer value =>
    simp only [prettyAt, sorted, tokens]
    exact spells_integer value
  | string text =>
    simp only [prettyAt, sorted, tokens]
    exact fun rest _ => lex_quoted text rest
  | @array items hitems ih =>
    have hopening : "[".toList = ['['] := by simp
    have hclosing : "]".toList = [']'] := by simp
    rw [prettyAt, prettyItems_eq_map, sorted, tokens, List.map_map]
    exact spells_bracketed hopening hclosing rfl rfl rfl rfl
      (fun item hitem => ih item hitem (depth + 1)) depth
  | @object members hnames hmembers ih =>
    have hopening : "\x7b".toList = ['\x7b'] := by simp
    have hclosing : "\x7d".toList = ['\x7d'] := by simp
    have hline : ∀ member ∈ inOrder members, Spells
        (quoted member.1 ++ ": " ++ prettyAt (depth + 1) member.2).toList
        (.value (.string member.1) :: .colon :: member.2.sorted.tokens) := by
      intro member hmember rest hends
      have hvalue := ih member (mem_inOrder.mp hmember) (depth + 1) rest hends
      have hcolon : Token.ofMark? ':' = some .colon := rfl
      rw [String.toList_append, String.toList_append, List.append_assoc, List.append_assoc,
        lex_quoted]
      change Option.map _ (lex (':' :: ' ' :: ((prettyAt (depth + 1) member.2).toList ++ rest))) = _
      rw [lex_mark hcolon rfl, lex_blank rfl, hvalue]
      simp only [Option.map_map, Function.comp_def, List.cons_append]
    -- Sorting the printed members by name is printing the sorted ones.
    have htexts : byName (members.map fun member => (member.1, prettyAt (depth + 1) member.2)) =
        (inOrder members).map fun member => (member.1, prettyAt (depth + 1) member.2) :=
      inOrder_map members (prettyAt (depth + 1))
    rw [prettyAt, prettyMembers_eq_map, htexts, List.map_map, sorted, inOrder_map, tokens,
      List.map_map]
    exact spells_bracketed hopening hclosing rfl rfl rfl rfl hline depth

/-! ## Building values -/

private theorem foldlM_step_append (first second : List Token) (frames : List Frame) :
    (first ++ second).foldlM step frames =
      (first.foldlM step frames).bind fun frames => second.foldlM step frames :=
  List.foldlM_append

/-- What stands between commas is built up one after the other in the innermost frame. -/
private theorem foldlM_intercalate {α : Type} {tokensOf inside : α → List Token} {items : List α}
    (hitems : ∀ item ∈ items, ∀ frame rest, (tokensOf item).foldlM step (frame :: rest) =
      some (⟨frame.isObject, (inside item).reverse ++ frame.inside⟩ :: rest))
    (frame : Frame) (rest : List Frame) :
    ([.comma].intercalate (items.map tokensOf)).foldlM step (frame :: rest) =
      some (⟨frame.isObject, ([.comma].intercalate (items.map inside)).reverse ++ frame.inside⟩ ::
        rest) := by
  induction items generalizing frame with
  | nil => rfl
  | cons item others ih =>
    have hfirst := hitems item List.mem_cons_self frame rest
    have hothers := ih fun other hother => hitems other (List.mem_cons_of_mem _ hother)
    cases others with
    | nil =>
      simp only [List.map_cons, List.map_nil, List.intercalate_singleton]
      exact hfirst
    | cons next others =>
      simp only [List.map_cons, List.intercalate_cons_cons] at hothers ⊢
      rw [foldlM_step_append, foldlM_step_append, hfirst, Option.bind_some]
      change Option.bind (some (_ :: rest)) _ = _
      rw [Option.bind_some, hothers]
      simp only [Frame.push, List.reverse_append, List.append_assoc, List.reverse_cons,
        List.nil_append, List.cons_append]

private theorem exists_intercalate_cons (token : Token) (tokens : List Token)
    (others : List (List Token)) :
    ∃ rest, [.comma].intercalate ((token :: tokens) :: others) = token :: rest := by
  cases others with
  | nil => exact ⟨tokens, List.intercalate_singleton⟩
  | cons next others => exact ⟨_, List.intercalate_cons_cons⟩

private theorem itemsOf?_intercalate (items : List Json) :
    itemsOf? ([.comma].intercalate (items.map fun item => [.value item])) = some items := by
  induction items with
  | nil => rfl
  | cons item others ih =>
    cases others with
    | nil => rfl
    | cons next others =>
      rw [List.map_cons] at ih
      obtain ⟨rest, hrest⟩ := exists_intercalate_cons (.value next) []
        (others.map fun item => [.value item])
      rw [List.map_cons, List.map_cons, List.intercalate_cons_cons, hrest]
      rw [hrest] at ih
      change (itemsOf? (.value next :: rest)).map (item :: ·) = _
      rw [ih, Option.map_some]

private theorem membersOf?_intercalate (members : List (String × Json)) :
    membersOf? ([.comma].intercalate (members.map fun member =>
      [.value (.string member.1), .colon, .value member.2])) = some members := by
  induction members with
  | nil => rfl
  | cons member others ih =>
    cases others with
    | nil => rfl
    | cons next others =>
      rw [List.map_cons] at ih
      obtain ⟨rest, hrest⟩ := exists_intercalate_cons (.value (.string next.1))
        [.colon, .value next.2] (others.map fun member =>
          [.value (.string member.1), .colon, .value member.2])
      rw [List.map_cons, List.map_cons, List.intercalate_cons_cons, hrest]
      rw [hrest] at ih
      change (membersOf? (.value (.string next.1) :: rest)).map (member :: ·) = _
      rw [ih, Option.map_some]

private theorem foldlM_enclosed {first last : Token} {between inside : List Token} {isObject : Bool}
    {json : Json} {frame : Frame} {rest : List Frame}
    (hfirst : step (frame :: rest) first = some (⟨isObject, []⟩ :: frame :: rest))
    (hbetween : between.foldlM step (⟨isObject, []⟩ :: frame :: rest) =
      some (⟨isObject, inside.reverse ++ []⟩ :: frame :: rest))
    (hlast : step (⟨isObject, inside.reverse⟩ :: frame :: rest) last =
      some (frame.push (.value json) :: rest)) :
    (first :: between ++ [last]).foldlM step (frame :: rest) =
      some (frame.push (.value json) :: rest) := by
  rw [List.cons_append, List.foldlM_cons, hfirst]
  change List.foldlM step _ _ = _
  rw [foldlM_step_append, hbetween, Option.bind_some, List.append_nil, List.foldlM_cons, hlast]
  rfl

theorem foldlM_tokens {json : Json} (hplain : json.IsPlain) (frame : Frame) (rest : List Frame) :
    json.tokens.foldlM step (frame :: rest) = some (frame.push (.value json) :: rest) := by
  induction hplain generalizing frame rest with
  | null => simp only [tokens]; rfl
  | bool value => simp only [tokens]; rfl
  | integer => simp only [tokens]; rfl
  | string text => simp only [tokens]; rfl
  | @array items hitems ih =>
    have hitem : ∀ item ∈ items, ∀ frame rest, item.tokens.foldlM step (frame :: rest) =
        some (⟨frame.isObject, [Token.value item].reverse ++ frame.inside⟩ :: rest) := ih
    rw [tokens]
    apply foldlM_enclosed rfl (foldlM_intercalate hitem ⟨false, []⟩ (frame :: rest))
    change (itemsOf? (List.reverse (List.reverse _))).map _ = _
    rw [List.reverse_reverse, itemsOf?_intercalate]
    rfl
  | @object members hnames hmembers ih =>
    have hmember : ∀ member ∈ members, ∀ frame rest,
        (Token.value (.string member.1) :: Token.colon :: member.2.tokens).foldlM step
          (frame :: rest) =
        some (⟨frame.isObject, [Token.value (.string member.1), .colon, .value member.2].reverse ++
          frame.inside⟩ :: rest) := by
      intro member hmember frame rest
      change List.foldlM step ((frame.push _).push _ :: rest) member.2.tokens = _
      rw [ih member hmember]
      rfl
    rw [tokens]
    apply foldlM_enclosed rfl (foldlM_intercalate hmember ⟨true, []⟩ (frame :: rest))
    change (membersOf? (List.reverse (List.reverse _))).map _ = _
    rw [List.reverse_reverse, membersOf?_intercalate]
    rfl

theorem IsPlain.sorted {json : Json} (hplain : json.IsPlain) : json.sorted.IsPlain := by
  induction hplain with
  | null => simp only [Json.sorted]; exact .null
  | bool value => simp only [Json.sorted]; exact .bool value
  | integer hlow hhigh => simp only [Json.sorted]; exact .integer hlow hhigh
  | string text => simp only [Json.sorted]; exact .string text
  | array hitems ih =>
    rw [Json.sorted]
    apply IsPlain.array
    intro item hitem
    obtain ⟨other, hother, rfl⟩ := List.mem_map.mp hitem
    exact ih other hother
  | object hnames hmembers ih =>
    rw [Json.sorted]
    apply IsPlain.object
    · rw [nodup_inOrder, List.map_map]
      exact hnames
    · intro member hmember
      obtain ⟨other, hother, rfl⟩ := List.mem_map.mp (mem_inOrder.mp hmember)
      exact ih other hother

/-- A printed value is read back, with the members of its objects in the order of their names. -/
theorem ofText?_pretty {json : Json} (hplain : json.IsPlain) :
    ofText? (json.pretty ++ "\n") = some json.sorted := by
  have hline : "\n".toList = ['\n'] := by simp
  have hlex : lex (json.pretty ++ "\n").toList = some json.sorted.tokens := by
    rw [String.toList_append, pretty, hline, spells_prettyAt hplain 0 _ (ends_cons (by decide) []),
      lex_blank (by decide), lex, Option.map_some, List.append_nil]
  rw [ofText?, hlex]
  change (json.sorted.tokens.foldlM step [⟨false, []⟩] >>= _) = _
  rw [foldlM_tokens hplain.sorted]
  rfl

end Json

abbrev JsonReader := String → Option Json

/-- A reader takes back what a printer makes of plain values, a line each, and keeps the members of
objects in the order of their names. -/
def JsonPrinter.IsReadBy (print : JsonPrinter) (read : JsonReader) : Prop :=
  ∀ json : Json, json.IsPlain →
    ∃ text, print json = .ok text ∧ read (text ++ "\n") = some json.sorted

theorem Json.isReadBy_ofText? : JsonPrinter.IsReadBy (fun json => .ok json.pretty) ofText? :=
  fun _ hplain => ⟨_, rfl, ofText?_pretty hplain⟩

end GpuTexture

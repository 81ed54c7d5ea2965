import PartialUpdate.Json.Decode

/-!
# JSON data read back

Data of words, strings, lists and objects, written with one item or member to a line, is read
as it was.
-/

namespace PartialUpdate
namespace Json

/-- Data that a text can spell in full, without numbers. -/
inductive IsPlain : Json -> Prop
  | null : IsPlain .null
  | bool (value : Bool) : IsPlain (.bool value)
  | string (value : String) : IsPlain (.string value)
  | ofList {items : List Json} (h : forall item, item ∈ items -> IsPlain item) :
      IsPlain (ofList items)
  | ofMembers {members : List (String × Json)}
      (h : forall member, member ∈ members -> IsPlain member.2) :
      IsPlain (ofMembers members)

/-!
# Strings
-/

theorem readEscape_hexPair {code : Nat} (h : code < 0x20) (rest : List Char) :
    readEscape ('u' :: '0' :: '0' :: (hexPair code ++ rest)) = .ok (some (Char.ofNat code), rest) := by
  have hhex :
      forall code : Fin 0x20,
        (['0', '0'] ++ hexPair code.val).mapM hexValue? =
          some [0, 0, code.val / 16, code.val % 16] := by
    decide
  have htake : ('0' :: '0' :: (hexPair code ++ rest)).take 4 = ['0', '0'] ++ hexPair code := by
    simp [hexPair]
  have hread : readHex ('0' :: '0' :: (hexPair code ++ rest)) = .ok (code, rest) := by
    have hcode : ((0 * 16 + 0) * 16 + code / 16) * 16 + code % 16 = code := by
      omega
    simp only [readHex, htake, hhex ⟨code, h⟩, hcode]
    simp [hexPair]
  have hhigh : isHighSurrogate code = false := by
    simp [isHighSurrogate]
    omega
  have hlow : isLowSurrogate code = false := by
    simp [isLowSurrogate]
    omega
  simp [readEscape, hread, hhigh, hlow, bind, Except.bind, pure, Except.pure]

theorem readChars_escape (fuel : Nat) (c : Char) (rest : List Char) :
    readChars (fuel + 1) (escapeChar c ++ rest) =
      (some c :: (readChars fuel rest).1, (readChars fuel rest).2) := by
  unfold escapeChar
  split
  · rfl
  · rfl
  · rfl
  · rfl
  · rfl
  · rfl
  · rfl
  · rename_i hquote hslash _ _ _ _ _
    split
    · rename_i hlow
      have hescape := readEscape_hexPair hlow rest
      rw [Char.ofNat_toNat] at hescape
      show readChars (fuel + 1) ('\\' :: 'u' :: '0' :: '0' :: (hexPair c.toNat ++ rest)) = _
      rw [readChars, hescape]
    · rename_i hlow
      show readChars (fuel + 1) (c :: rest) = _
      rw [readChars, if_neg hlow]
      · exact hquote
      · exact hslash

theorem readChars_escaped (chars rest : List Char) {fuel : Nat} (h : chars.length < fuel) :
    readChars fuel (chars.flatMap escapeChar ++ '"' :: rest) = (chars.map some, .ok rest) := by
  induction chars generalizing fuel with
  | nil =>
      cases fuel with
      | zero => exact absurd h (Nat.not_lt_zero _)
      | succ fuel => rfl
  | cons c more ih =>
      cases fuel with
      | zero => exact absurd h (Nat.not_lt_zero _)
      | succ fuel =>
          have hmore := ih (Nat.lt_of_succ_lt_succ h)
          rw [List.flatMap_cons, List.append_assoc, readChars_escape, hmore]
          rfl

theorem escapeChar_length_pos (c : Char) : 0 < (escapeChar c).length := by
  unfold escapeChar
  split <;> try simp
  split <;> simp

theorem length_le_escaped (chars : List Char) :
    chars.length <= (chars.flatMap escapeChar).length := by
  induction chars with
  | nil => simp
  | cons c more ih =>
      have hc := escapeChar_length_pos c
      simp only [List.flatMap_cons, List.length_append, List.length_cons]
      omega

theorem readString_escaped (text : String) (rest : List Char) :
    readString (text.toList.flatMap escapeChar ++ '"' :: rest) = (some text, .ok rest) := by
  have hlength := length_le_escaped text.toList
  have hread :
      readChars ((text.toList.flatMap escapeChar ++ '"' :: rest).length + 1)
          (text.toList.flatMap escapeChar ++ '"' :: rest) =
        (text.toList.map some, .ok rest) := by
    apply readChars_escaped
    rw [List.length_append]
    omega
  have hwhole : (text.toList.map some).mapM id = some text.toList := by
    rw [List.mapM_map, Function.id_comp]
    induction text.toList with
    | nil => rfl
    | cons c more ih => rw [List.mapM_cons, ih]; rfl
  rw [readString, hread]
  simp only [hwhole, Option.map_some, String.ofList_toList]

/-!
# What begins a value
-/

def valueOpenings : List Char :=
  ['n', 't', 'f', '"', '[', '\x7b']

theorem mem_valueOpenings {c : Char} :
    c ∈ valueOpenings ↔ c = 'n' ∨ c = 't' ∨ c = 'f' ∨ c = '"' ∨ c = '[' ∨ c = '\x7b' := by
  simp only [valueOpenings, List.mem_cons, List.not_mem_nil, or_false]

def OpensValue (text : List Char) : Prop :=
  exists c rest, text = c :: rest ∧ c ∈ valueOpenings

theorem OpensValue.append {text : List Char} (h : OpensValue text) (rest : List Char) :
    OpensValue (text ++ rest) := by
  rcases h with ⟨c, behind, rfl, hc⟩
  exact ⟨c, behind ++ rest, rfl, hc⟩

theorem IsPlain.opensValue {json : Json} (h : IsPlain json) (depth : Nat) :
    OpensValue (prettyChars depth json) := by
  cases h with
  | null => exact ⟨'n', _, by rfl, by decide⟩
  | bool value =>
      cases value with
      | false => exact ⟨'f', _, by rfl, by decide⟩
      | true => exact ⟨'t', _, by rfl, by decide⟩
  | string value => exact ⟨'"', _, by rfl, by decide⟩
  | @ofList items _ =>
      cases items with
      | nil => exact ⟨'[', _, by rfl, by decide⟩
      | cons item more => exact ⟨'[', _, by rfl, by decide⟩
  | @ofMembers members _ =>
      cases members with
      | nil => exact ⟨'\x7b', _, by rfl, by decide⟩
      | cons member more => exact ⟨'\x7b', _, by rfl, by decide⟩

theorem skipSpace_of_opensValue {text : List Char} (h : OpensValue text) :
    skipSpace text = text := by
  rcases h with ⟨c, rest, rfl, hc⟩
  have hspace : isSpace c = false := by
    rcases mem_valueOpenings.mp hc with rfl | rfl | rfl | rfl | rfl | rfl <;> rfl
  rw [skipSpace, List.dropWhile_cons, hspace]
  rfl

theorem skipSpace_newline (depth : Nat) (rest : List Char) :
    skipSpace (newline depth ++ rest) = skipSpace rest := by
  have hspace : forall c, c ∈ newline depth -> isSpace c = true := by
    intro c hc
    simp only [newline, List.mem_cons, List.mem_replicate] at hc
    rcases hc with rfl | ⟨_, rfl⟩ <;> rfl
  exact List.dropWhile_append_of_pos hspace

/-!
# Values

A value is read with fuel in proportion to its text: an item takes three steps for itself, and
its text has two characters or more.
-/

def ReadsBack (json : Json) : Prop :=
  forall (depth fuel : Nat) (rest : List Char),
    4 * (prettyChars depth json).length <= fuel ->
      readValue (fuel + 1) (prettyChars depth json ++ rest) = (json, some rest)

theorem readsBack_null : ReadsBack .null := by
  intro depth fuel rest _
  rfl

theorem readsBack_bool (value : Bool) : ReadsBack (.bool value) := by
  intro depth fuel rest _
  cases value with
  | false => rfl
  | true => rfl

theorem quote_append (text : String) (rest : List Char) :
    quote text ++ rest = '"' :: (text.toList.flatMap escapeChar ++ '"' :: rest) := by
  simp [quote]

theorem readsBack_string (value : String) : ReadsBack (.string value) := by
  intro depth fuel rest _
  show readValue (fuel + 1) (quote value ++ rest) = _
  rw [quote_append]
  show takenString (value.toList.flatMap escapeChar ++ '"' :: rest) = _
  rw [takenString, readString_escaped]

/-!
# Lists
-/

def itemsBehind (depth : Nat) : List Json -> List Char
  | [] => []
  | more => ',' :: prettyItems depth more

theorem itemsBehind_cons (depth : Nat) (next : Json) (more : List Json) :
    itemsBehind depth (next :: more) = ',' :: prettyItems depth (next :: more) := by
  rfl

theorem prettyItems_cons (depth : Nat) (item : Json) (more : List Json) :
    prettyItems depth (item :: more) =
      newline depth ++ (prettyChars depth item ++ itemsBehind depth more) := by
  cases more with
  | nil => rw [prettyItems, itemsBehind, List.append_nil]
  | cons next more =>
      rw [prettyItems, List.append_assoc]
      · rfl
      · exact List.cons_ne_nil next more

theorem length_prettyItems (depth : Nat) (item : Json) (more : List Json) :
    (prettyChars depth item).length + (itemsBehind depth more).length <
      (prettyItems depth (item :: more)).length := by
  simp only [prettyItems_cons, newline, List.length_append, List.length_cons]
  omega

theorem skipSpace_prettyItems (depth : Nat) {item : Json} (hitem : IsPlain item)
    (more : List Json) (close : List Char) :
    skipSpace (prettyItems depth (item :: more) ++ close) =
      prettyChars depth item ++ (itemsBehind depth more ++ close) := by
  rw [prettyItems_cons, List.append_assoc, List.append_assoc, skipSpace_newline,
    skipSpace_of_opensValue ((hitem.opensValue depth).append _)]

theorem opensValue_prettyItems (depth : Nat) {item : Json} (hitem : IsPlain item)
    (more : List Json) (close : List Char) :
    OpensValue (skipSpace (prettyItems depth (item :: more) ++ close)) := by
  rw [skipSpace_prettyItems depth hitem]
  exact (hitem.opensValue depth).append _

theorem readItems_first (fuel : Nat) {text : List Char} (h : OpensValue (skipSpace text)) :
    readItems (fuel + 1) true text = readItem fuel (skipSpace text) := by
  rcases h with ⟨c, rest, htext, hc⟩
  rw [readItems, htext]
  rcases mem_valueOpenings.mp hc with rfl | rfl | rfl | rfl | rfl | rfl <;> rfl

theorem readItems_comma (fuel : Nat) {text : List Char} (h : OpensValue (skipSpace text)) :
    readItems (fuel + 1) false (',' :: text) = readItem fuel (skipSpace text) := by
  rcases h with ⟨c, rest, htext, hc⟩
  have hcomma : skipSpace (',' :: text) = ',' :: text := rfl
  simp only [readItems, hcomma, htext, Bool.false_eq_true, if_false]
  rcases mem_valueOpenings.mp hc with rfl | rfl | rfl | rfl | rfl | rfl <;> rfl

theorem readItems_closing (fuel : Nat) {close rest : List Char}
    (hclose : skipSpace close = ']' :: rest) (first : Bool) :
    readItems (fuel + 1) first close = ([], none, some rest) := by
  rw [readItems, hclose]
  rfl

theorem ReadsBack.readItem {item : Json} (h : ReadsBack item) (hitem : IsPlain item)
    {depth fuel : Nat} {more : List Json} {close rest : List Char}
    (hfuel : 4 * (prettyItems depth (item :: more)).length <= fuel)
    (hmore : readItems (fuel + 1) false (itemsBehind depth more ++ close) =
      (more, none, some rest)) :
    readItem (fuel + 2) (skipSpace (prettyItems depth (item :: more) ++ close)) =
      (item :: more, none, some rest) := by
  have hlength := length_prettyItems depth item more
  rw [skipSpace_prettyItems depth hitem, Json.readItem, h depth fuel _ (by omega)]
  simp only [hmore]

/-- The items are read up to a text that begins with the closing bracket after some space. -/
theorem readItems_itemsBehind (depth : Nat) (items : List Json)
    (hplain : forall item, item ∈ items -> IsPlain item)
    (hitems : forall item, item ∈ items -> ReadsBack item)
    {close rest : List Char} (hclose : skipSpace close = ']' :: rest) (fuel : Nat)
    (hfuel : 4 * (itemsBehind depth items).length <= fuel) :
    readItems (fuel + 1) false (itemsBehind depth items ++ close) =
      (items, none, some rest) := by
  induction items generalizing fuel with
  | nil => exact readItems_closing fuel hclose false
  | cons item more ih =>
      have hitem := hplain item List.mem_cons_self
      have hmore :=
        ih (fun other hother => hplain other (List.mem_cons_of_mem _ hother))
          (fun other hother => hitems other (List.mem_cons_of_mem _ hother))
      have hlength := length_prettyItems depth item more
      rw [itemsBehind_cons, List.length_cons] at hfuel
      rcases Nat.exists_eq_add_of_le' (show 2 <= fuel by omega) with ⟨spare, rfl⟩
      rw [itemsBehind_cons, List.cons_append,
        readItems_comma _ (opensValue_prettyItems depth hitem more close)]
      apply (hitems item List.mem_cons_self).readItem hitem (by omega)
      exact hmore spare (by omega)

/-!
# Objects
-/

def spelledMembers (members : List (String × Json)) : List (JsonKey × Json) :=
  members.map (fun (name, value) => (.text name, value))

theorem spelledMembers_cons (member : String × Json) (more : List (String × Json)) :
    spelledMembers (member :: more) = (.text member.1, member.2) :: spelledMembers more := by
  rfl

theorem readColon_colon (text : List Char) : readColon (':' :: text) = .ok text := by
  rfl

theorem ReadsBack.readValue_space {json : Json} (h : ReadsBack json) {depth fuel : Nat}
    (hfuel : 4 * (prettyChars depth json).length <= fuel) (rest : List Char) :
    readValue (fuel + 1) (' ' :: (prettyChars depth json ++ rest)) = (json, some rest) := by
  rw [← h depth fuel rest hfuel]
  rfl

def membersBehind (depth : Nat) : List (JsonKey × Json) -> List Char
  | [] => []
  | more => ',' :: prettyMembers depth more

theorem membersBehind_cons (depth : Nat) (next : String × Json) (more : List (String × Json)) :
    membersBehind depth (spelledMembers (next :: more)) =
      ',' :: prettyMembers depth (spelledMembers (next :: more)) := by
  rfl

theorem prettyMembers_cons (depth : Nat) (key : JsonKey) (value : Json)
    (more : List (JsonKey × Json)) :
    prettyMembers depth ((key, value) :: more) =
      newline depth ++
        (keyText key ++ ':' :: ' ' :: (prettyChars depth value ++ membersBehind depth more)) := by
  cases more with
  | nil => rw [prettyMembers, membersBehind, List.append_nil, List.append_assoc]
  | cons next more =>
      rw [prettyMembers]
      · simp [membersBehind]
      · exact List.cons_ne_nil next more

theorem length_prettyMembers (depth : Nat) (member : String × Json)
    (more : List (String × Json)) :
    (prettyChars depth member.2).length + (membersBehind depth (spelledMembers more)).length <
      (prettyMembers depth (spelledMembers (member :: more))).length := by
  simp only [spelledMembers_cons, prettyMembers_cons, newline, List.length_append,
    List.length_cons]
  omega

theorem skipSpace_prettyMembers (depth : Nat) (member : String × Json)
    (more : List (String × Json)) (close : List Char) :
    skipSpace (prettyMembers depth (spelledMembers (member :: more)) ++ close) =
      '"' :: (member.1.toList.flatMap escapeChar ++
        '"' :: ':' :: ' ' :: (prettyChars depth member.2 ++
          (membersBehind depth (spelledMembers more) ++ close))) := by
  rw [spelledMembers_cons, prettyMembers_cons, List.append_assoc, skipSpace_newline]
  simp only [keyText, quote, List.append_assoc, List.cons_append, List.nil_append]
  rfl

theorem readMembers_first (fuel : Nat) {text rest : List Char} (h : skipSpace text = '"' :: rest) :
    readMembers (fuel + 1) true text = readMember fuel (skipSpace text) := by
  rw [readMembers, h]
  rfl

theorem readMembers_comma (fuel : Nat) (text : List Char) :
    readMembers (fuel + 1) false (',' :: text) = readMember fuel (skipSpace text) := by
  rfl

theorem readMembers_closing (fuel : Nat) {close rest : List Char}
    (hclose : skipSpace close = '\x7d' :: rest) (first : Bool) :
    readMembers (fuel + 1) first close = ([], none, some rest) := by
  rw [readMembers, hclose]
  rfl

theorem ReadsBack.readMember {member : String × Json} (h : ReadsBack member.2)
    {depth fuel : Nat} {more : List (String × Json)} {close rest : List Char}
    (hfuel : 4 * (prettyMembers depth (spelledMembers (member :: more))).length <= fuel)
    (hmore : readMembers (fuel + 1) false (membersBehind depth (spelledMembers more) ++ close) =
      (spelledMembers more, none, some rest)) :
    readMember (fuel + 2)
        (skipSpace (prettyMembers depth (spelledMembers (member :: more)) ++ close)) =
      (spelledMembers (member :: more), none, some rest) := by
  have hlength := length_prettyMembers depth member more
  have hvalue := h.readValue_space (show 4 * (prettyChars depth member.2).length <= fuel by omega)
  rw [skipSpace_prettyMembers, Json.readMember, readString_escaped]
  simp only [readColon_colon, hvalue, hmore, Option.map_some, Option.getD_some,
    spelledMembers_cons]

theorem readMembers_membersBehind (depth : Nat) (members : List (String × Json))
    (hmembers : forall member, member ∈ members -> ReadsBack member.2)
    {close rest : List Char} (hclose : skipSpace close = '\x7d' :: rest) (fuel : Nat)
    (hfuel : 4 * (membersBehind depth (spelledMembers members)).length <= fuel) :
    readMembers (fuel + 1) false (membersBehind depth (spelledMembers members) ++ close) =
      (spelledMembers members, none, some rest) := by
  induction members generalizing fuel with
  | nil => exact readMembers_closing fuel hclose false
  | cons member more ih =>
      have hmore := ih (fun other hother => hmembers other (List.mem_cons_of_mem _ hother))
      have hlength := length_prettyMembers depth member more
      rw [membersBehind_cons, List.length_cons] at hfuel
      rcases Nat.exists_eq_add_of_le' (show 2 <= fuel by omega) with ⟨spare, rfl⟩
      rw [membersBehind_cons, List.cons_append, readMembers_comma]
      apply (hmembers member List.mem_cons_self).readMember (by omega)
      exact hmore spare (by omega)

/-!
# Whole texts
-/

theorem skipSpace_closing (depth : Nat) {c : Char} (h : isSpace c = false) (rest : List Char) :
    skipSpace (newline depth ++ [c] ++ rest) = c :: rest := by
  rw [List.append_assoc, skipSpace_newline, skipSpace, List.singleton_append, List.dropWhile_cons, h]
  rfl

theorem readValue_bracket {fuel : Nat} {text rest : List Char} {items : List Json}
    (h : readItems fuel true text = (items, none, some rest)) :
    readValue (fuel + 1) ('[' :: text) = (ofList items, some rest) := by
  have hskip : skipSpace ('[' :: text) = '[' :: text := rfl
  simp only [readValue, hskip, h, ofList]

theorem readValue_brace {fuel : Nat} {text rest : List Char} {members : List (JsonKey × Json)}
    (h : readMembers fuel true text = (members, none, some rest)) :
    readValue (fuel + 1) ('\x7b' :: text) = (.object members none, some rest) := by
  have hskip : skipSpace ('\x7b' :: text) = '\x7b' :: text := rfl
  simp only [readValue, hskip, h]

theorem readsBack_ofList {items : List Json} (hplain : forall item, item ∈ items -> IsPlain item)
    (hitems : forall item, item ∈ items -> ReadsBack item) : ReadsBack (ofList items) := by
  intro depth fuel rest hfuel
  cases items with
  | nil =>
      have hlength : (prettyChars depth (ofList [])).length = 2 := rfl
      rcases Nat.exists_eq_add_of_le' (show 1 <= fuel by omega) with ⟨spare, rfl⟩
      rfl
  | cons item more =>
      have htext :
          prettyChars depth (ofList (item :: more)) =
            '[' :: (prettyItems (depth + 1) (item :: more) ++ (newline depth ++ [']'])) := by
        rw [ofList, prettyChars, List.cons_append, List.cons_append, List.append_assoc]
        exact List.cons_ne_nil item more
      have hitem := hplain item List.mem_cons_self
      have hclose := skipSpace_closing depth (show isSpace ']' = false by rfl) rest
      have hmore :=
        readItems_itemsBehind (depth + 1) more
          (fun other hother => hplain other (List.mem_cons_of_mem _ hother))
          (fun other hother => hitems other (List.mem_cons_of_mem _ hother)) hclose
      have hlength := length_prettyItems (depth + 1) item more
      rw [htext, List.length_cons, List.length_append] at hfuel
      rcases Nat.exists_eq_add_of_le' (show 3 <= fuel by omega) with ⟨spare, rfl⟩
      rw [htext, List.cons_append, List.append_assoc]
      apply readValue_bracket
      rw [readItems_first _ (opensValue_prettyItems (depth + 1) hitem more _)]
      apply (hitems item List.mem_cons_self).readItem hitem (by omega)
      exact hmore spare (by omega)

theorem readsBack_ofMembers {members : List (String × Json)}
    (hmembers : forall member, member ∈ members -> ReadsBack member.2) :
    ReadsBack (ofMembers members) := by
  intro depth fuel rest hfuel
  cases members with
  | nil =>
      have hlength : (prettyChars depth (ofMembers [])).length = 2 := rfl
      rcases Nat.exists_eq_add_of_le' (show 1 <= fuel by omega) with ⟨spare, rfl⟩
      rfl
  | cons member more =>
      have htext :
          prettyChars depth (ofMembers (member :: more)) =
            '\x7b' :: (prettyMembers (depth + 1) (spelledMembers (member :: more)) ++
              (newline depth ++ ['\x7d'])) := by
        rw [ofMembers, prettyChars, List.cons_append, List.cons_append, List.append_assoc]
        · rfl
        · exact List.cons_ne_nil _ _
      have hclose := skipSpace_closing depth (show isSpace '\x7d' = false by rfl) rest
      have hmore :=
        readMembers_membersBehind (depth + 1) more
          (fun other hother => hmembers other (List.mem_cons_of_mem _ hother)) hclose
      have hlength := length_prettyMembers (depth + 1) member more
      rw [htext, List.length_cons, List.length_append] at hfuel
      rcases Nat.exists_eq_add_of_le' (show 3 <= fuel by omega) with ⟨spare, rfl⟩
      rw [htext, List.cons_append, List.append_assoc]
      apply readValue_brace
      rw [readMembers_first _ (skipSpace_prettyMembers (depth + 1) member more _)]
      apply (hmembers member List.mem_cons_self).readMember (by omega)
      exact hmore spare (by omega)

theorem IsPlain.readsBack {json : Json} (h : IsPlain json) : ReadsBack json := by
  induction h with
  | null => exact readsBack_null
  | bool value => exact readsBack_bool value
  | string value => exact readsBack_string value
  | ofList hitems ih => exact readsBack_ofList hitems ih
  | ofMembers _ ih => exact readsBack_ofMembers ih

/-- Plain data is read as it was written, and nothing is left over. -/
theorem read_pretty {json : Json} (h : IsPlain json) : read json.pretty = (json, none) := by
  have hback := h.readsBack 0 (4 * (prettyChars 0 json).length + 7) [] (by omega)
  rw [List.append_nil] at hback
  rw [read, pretty, String.toList_ofList, fuelFor, hback]
  rfl

theorem decodeText_pretty {α : Type} (decode : Json -> JsonResult α) {json : Json}
    (h : IsPlain json) : decodeText decode json.pretty = decode json := by
  rw [decodeText, read_pretty h]
  show (decode json).bind (fun value => (noFault none).bind (fun _ => .ok value)) = _
  cases decode json with
  | error fault => rfl
  | ok value => rfl

end Json
end PartialUpdate

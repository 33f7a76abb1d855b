import ConstraintDirectives.Proofs.JsonNumbers

/-! A document reads back from its text, since each part is read wherever it stands. -/
namespace ConstraintDirectives.Json
open Text

/-! ### Strings -/

section Strings
variable {c e : Char} {codes : List Nat} {cs rest : List Char}

private theorem char?_toNat (c : Char) : char? c.toNat = some c := by
  have hvalid : c.toNat.isValidChar := c.valid
  rw [char?, if_pos hvalid, Char.ofNat_toNat]

/-- No character is a surrogate, so none are joined. -/
theorem characters?_toNat : ∀ cs : List Char, characters? (cs.map Char.toNat) = some cs
  | [] => rfl
  | [c] => by simp [characters?, char?_toNat]
  | c :: d :: cs => by
    have hvalid : c.toNat < 0xD800 ∨ 0xDFFF < c.toNat ∧ c.toNat < 0x110000 := c.valid
    have ih := characters?_toNat (d :: cs)
    rw [List.map_cons] at ih
    rw [List.map_cons, List.map_cons, characters?, if_neg (by omega), char?_toNat, ih]
    rfl

private theorem stringOf?_toNat (s : String) : stringOf? (s.toList.map Char.toNat) = some s := by
  rw [stringOf?, characters?_toNat, Option.map_some, String.ofList_toList]

private theorem stringBody_plain (hquote : c ≠ '"') (hslash : c ≠ '\\') (hc : ¬c.toNat < 0x20)
    (h : Yields (stringBody cs) codes rest) :
    Yields (stringBody (c :: cs)) (c.toNat :: codes) rest := by
  obtain ⟨_, hbody⟩ := h
  rw [stringBody, if_neg hquote, if_neg hslash, if_neg hc, hbody]
  exact ⟨_, rfl⟩

private theorem stringBody_escaped {n : Nat} {ds : List Char} (hescape : Yields (escaped ds) n cs)
    (h : Yields (stringBody cs) codes rest) :
    Yields (stringBody ('\\' :: ds)) (n :: codes) rest := by
  obtain ⟨_, hbody⟩ := h
  obtain ⟨_, hescape⟩ := hescape
  rw [stringBody, if_neg (by decide), if_pos rfl, hescape]
  simp only [hbody]
  exact ⟨_, rfl⟩

private theorem escaped_named (he : namedEscape? e = some c) : Yields (escaped (e :: cs)) c.toNat cs := by
  have hne : e ≠ 'u' := by
    rintro rfl
    cases he
  rw [escaped]
  · rw [he]
    exact ⟨Nat.lt_succ_self _, rfl⟩
  · rintro _ _ _ _ _ rfl _
    exact hne rfl

private theorem hexNumber?_hexDigit {n : Nat} (hn : n < 0x20) :
    hexNumber? ['0', '0', hexDigit (n / 16), hexDigit (n % 16)] = some n := by
  revert n
  decide

private theorem escaped_hex {n : Nat} (hn : n < 0x20) :
    Yields (escaped ('u' :: '0' :: '0' :: hexDigit (n / 16) :: hexDigit (n % 16) :: cs)) n cs := by
  rw [escaped, hexNumber?_hexDigit hn]
  exact ⟨by simp +arith, rfl⟩

/-- A character reads back from its escape, or from itself where it needs none. -/
theorem stringBody_escape (c : Char) (h : Yields (stringBody cs) codes rest) :
    Yields (stringBody (escape c ++ cs)) (c.toNat :: codes) rest := by
  fun_cases escape c with
  | case8 c hquote hslash _ _ _ _ _ hc => exact stringBody_escaped (escaped_hex hc) h
  | case9 c hquote hslash _ _ _ _ _ hc => exact stringBody_plain hquote hslash hc h
  | _ => exact stringBody_escaped (escaped_named rfl) h

private theorem stringBody_flatMap_escape (cs rest : List Char) :
    Yields (stringBody (cs.flatMap escape ++ '"' :: rest)) (cs.map Char.toNat) rest := by
  induction cs with
  | nil =>
    rw [List.flatMap_nil, List.nil_append, stringBody, if_pos rfl]
    exact ⟨_, rfl⟩
  | cons c cs ih =>
    rw [List.flatMap_cons, List.append_assoc, List.map_cons]
    exact stringBody_escape c ih

end Strings

/-! ### Containers -/

section Containers
variable {α β : Type} {item : Reader α} {close : Char} {x : α} {xs : List α} {cs ds rest : List Char}

private theorem separated_last (hclose : isBlank close = false) (h : Yields (item cs) x (close :: rest)) :
    Yields (separated item close cs) [x] rest := by
  obtain ⟨_, hitem⟩ := h
  rw [separated, hitem]
  simp only [uncons?_skipBlank hclose, Shorter.tail, Within.after, Within.whole, if_true]
  exact ⟨_, rfl⟩

private theorem separated_more (hclose : close ≠ ',') (h : Yields (item cs) x (',' :: ds))
    (hmore : Yields (separated item close ds) xs rest) :
    Yields (separated item close cs) (x :: xs) rest := by
  obtain ⟨_, hitem⟩ := h
  obtain ⟨_, hmore⟩ := hmore
  rw [separated, hitem]
  simp only [uncons?_skipBlank (show isBlank ',' = false by decide), Shorter.tail, Within.after,
    Within.whole, if_neg hclose.symm, if_true, hmore]
  exact ⟨_, rfl⟩

variable {write : β → List Char} {what : β → α} {bs : List β}

private theorem isBlank_close (hclose : close = ']' ∨ close = '\x7d') : isBlank close = false := by
  rcases hclose with rfl | rfl <;> decide

/-- Items are read one after the other, if each is read wherever it stands. -/
theorem separated_intercalate (hclose : close = ']' ∨ close = '\x7d') (hne : bs ≠ [])
    (hitem : ∀ b ∈ bs, ∀ rest, Ends rest → Yields (item (write b ++ rest)) (what b) rest) :
    Yields (separated item close ([','].intercalate (bs.map write) ++ close :: rest))
      (bs.map what) rest := by
  have hblank := isBlank_close hclose
  have hcomma : close ≠ ',' := by rcases hclose with rfl | rfl <;> decide
  induction bs with
  | nil => exact absurd rfl hne
  | cons b bs ih =>
    obtain ⟨hb, hbs⟩ := List.forall_mem_cons.mp hitem
    cases bs with
    | nil =>
      rw [List.map_singleton, List.map_singleton, List.intercalate_singleton]
      exact separated_last hblank (hb (close :: rest) (ends_cons.mpr (.inr hclose)))
    | cons b' bs =>
      have hmore := ih (by simp) hbs
      have htext : [','].intercalate ((b :: b' :: bs).map write) ++ close :: rest =
          write b ++ ',' :: ([','].intercalate ((b' :: bs).map write) ++ close :: rest) := by
        simp [List.intercalate_cons_cons]
      rw [htext, List.map_cons]
      exact separated_more hcomma (hb _ (ends_cons.mpr (.inl rfl))) hmore

private theorem container_intercalate (hclose : close = ']' ∨ close = '\x7d')
    (hitem : ∀ b ∈ bs, ∀ rest, Ends rest → Yields (item (write b ++ rest)) (what b) rest)
    (hstart : ∀ b ∈ bs, ∃ c ∈ (write b).head?, isBlank c = false ∧ c ≠ close) :
    Yields (container item close ([','].intercalate (bs.map write) ++ close :: rest))
      (bs.map what) rest := by
  have hblank := isBlank_close hclose
  cases bs with
  | nil =>
    rw [List.map_nil, List.map_nil, List.intercalate_nil, List.nil_append]
    simp only [container, uncons?_skipBlank hblank, if_true]
    exact ⟨_, rfl⟩
  | cons b bs =>
    have hseparated := @separated_intercalate α β item close rest write what (b :: bs) hclose
      (by simp) hitem
    obtain ⟨c, hhead, hc, hne⟩ := hstart b (List.mem_cons_self ..)
    obtain ⟨ds, hds⟩ := List.head?_eq_some_iff.mp hhead
    have htext : ∃ es, [','].intercalate ((b :: bs).map write) ++ close :: rest = c :: es := by
      cases bs <;> simp [hds, List.intercalate_cons_cons]
    obtain ⟨es, htext⟩ := htext
    rw [htext] at hseparated ⊢
    simp only [container, uncons?_skipBlank hc, if_neg hne]
    exact hseparated

end Containers

theorem mapM_map_eq_some {α β γ : Type} {l : List α} {f : α → β} {g : β → Option γ} {h : α → γ}
    (hl : ∀ x ∈ l, g (f x) = some (h x)) : (l.map f).mapM g = some (l.map h) := by
  induction l with
  | nil => rfl
  | cons x l ih =>
    obtain ⟨hx, hl⟩ := List.forall_mem_cons.mp hl
    rw [List.map_cons, List.mapM_cons, hx, ih hl]
    rfl

/-! ### Documents -/

mutual
def nesting : Json → Nat
  | .array items => itemNesting items + 1
  | .object members => memberNesting members + 1
  | _ => 0

def itemNesting : List Json → Nat
  | [] => 0
  | x :: xs => max x.nesting (itemNesting xs)

def memberNesting : List (String × Json) → Nat
  | [] => 0
  | (_, x) :: xs => max x.nesting (memberNesting xs)
end

/-- Documents whose text tells everything about them. An integer needs 64 bits that hold it, and a
real number digits that read back as it. -/
inductive Lossless : Json → Prop where
  | null : Lossless .null
  | bool (b : Bool) : Lossless (.bool b)
  | integer {i : Int} : Int64.minValue.toInt ≤ i → i < UInt64.size → Lossless (.integer i)
  | real {x : Binary64} : x.isFinite = true → parse? (Json.real x).render = some (.real x) →
      Lossless (.real x)
  | string (s : String) : Lossless (.string s)
  | array {items : List Json} : (∀ x ∈ items, Lossless x) → Lossless (.array items)
  | object {members : List (String × Json)} : (∀ m ∈ members, Lossless m.2) →
      Lossless (.object members)

section Documents
variable {depth allowed n : Nat} {j : Json} {cs rest : List Char}

private theorem itemNesting_le_iff {items : List Json} :
    itemNesting items ≤ n ↔ ∀ x ∈ items, x.nesting ≤ n := by
  induction items with
  | nil => simp [itemNesting]
  | cons x xs ih => rw [itemNesting, Nat.max_le, ih, List.forall_mem_cons]

private theorem memberNesting_le_iff {members : List (String × Json)} :
    memberNesting members ≤ n ↔ ∀ m ∈ members, m.2.nesting ≤ n := by
  induction members with
  | nil => simp [memberNesting]
  | cons m ms ih => rw [memberNesting, Nat.max_le, ih, List.forall_mem_cons]

theorem renderItems_eq_map (items : List Json) : renderItems items = items.map render := by
  induction items with
  | nil => rfl
  | cons x xs ih => rw [renderItems, ih, List.map_cons]

def memberText (m : String × Json) : String := quoted m.1 ++ ":" ++ m.2.render

theorem renderMembers_eq_map (members : List (String × Json)) :
    renderMembers members = members.map memberText := by
  induction members with
  | nil => rfl
  | cons m ms ih =>
    rw [renderMembers, ih, List.map_cons]
    rfl

private theorem toList_quoted (s : String) :
    (quoted s).toList = '"' :: (s.toList.flatMap escape ++ ['"']) := by
  simp [quoted]

private theorem toList_render_array (items : List Json) : (Json.array items).render.toList =
    '[' :: ([','].intercalate (items.map fun x => x.render.toList) ++ [']']) := by
  simp [render, renderItems_eq_map, String.toList_intercalate, Function.comp_def]

private theorem toList_memberText (m : String × Json) :
    (memberText m).toList = (quoted m.1).toList ++ ':' :: m.2.render.toList := by
  simp [memberText]

private theorem toList_render_object (members : List (String × Json)) :
    (Json.object members).render.toList =
      '\x7b' :: ([','].intercalate (members.map fun m => (memberText m).toList) ++ ['\x7d']) := by
  simp [render, renderMembers_eq_map, String.toList_intercalate, Function.comp_def]

private theorem value_quoted (s : String) :
    Yields (value depth allowed ((quoted s).toList ++ rest)) (.string s) rest := by
  obtain ⟨_, hbody⟩ := stringBody_flatMap_escape s.toList rest
  have htext : (quoted s).toList ++ rest = '"' :: (s.toList.flatMap escape ++ '"' :: rest) := by
    simp [toList_quoted]
  have hvalue : value depth allowed ('"' :: (s.toList.flatMap escape ++ '"' :: rest)) =
      (stringBody (s.toList.flatMap escape ++ '"' :: rest)).map
        fun (s, t) => (ofText s, t.after '"') := by
    cases depth <;> simp only [value, uncons?_skipBlank (show isBlank '"' = false by decide)] <;> rfl
  rw [htext, hvalue, hbody]
  exact ⟨_, by simp [ofText, stringOf?_toNat]; rfl⟩

private theorem member_quoted {item : Reader Json} (k : String) (h : Yields (item cs) j rest) :
    Yields (member item ((quoted k).toList ++ ':' :: cs)) (some k, j) rest := by
  obtain ⟨_, hbody⟩ := stringBody_flatMap_escape k.toList (':' :: cs)
  obtain ⟨_, hitem⟩ := h
  have htext : (quoted k).toList ++ ':' :: cs =
      '"' :: (k.toList.flatMap escape ++ '"' :: ':' :: cs) := by
    simp [toList_quoted]
  rw [htext]
  simp only [member, uncons?_skipBlank (show isBlank '"' = false by decide),
    uncons?_skipBlank (show isBlank ':' = false by decide), Shorter.tail, Within.after, Within.whole,
    hbody, hitem, stringOf?_toNat, Option.bind_eq_bind, Option.bind_some]
  exact ⟨_, rfl⟩

def constants : List (Char × String × Json) :=
  [('n', "ull", .null), ('t', "rue", .bool true), ('f', "alse", .bool false)]

private theorem value_constant {c : Char} {word : String} (h : (c, word, j) ∈ constants)
    (rest : List Char) : Yields (value depth allowed (c :: (word.toList ++ rest))) j rest := by
  have hword : Yields ((afterWord? word.toList (word.toList ++ rest)).map fun t => (j, t.after c))
      j rest := by
    rw [afterWord?, if_pos (by simp)]
    exact ⟨by simp +arith, by simp [Within.after]⟩
  have hvalue : value depth allowed (c :: (word.toList ++ rest)) =
      (afterWord? word.toList (word.toList ++ rest)).map fun t => (j, t.after c) := by
    simp only [constants, List.mem_cons, List.not_mem_nil, or_false, Prod.mk.injEq] at h
    rcases h with ⟨rfl, rfl, rfl⟩ | ⟨rfl, rfl, rfl⟩ | ⟨rfl, rfl, rfl⟩ <;> cases depth <;>
      simp only [value, uncons?_skipBlank (show isBlank 'n' = false by decide),
        uncons?_skipBlank (show isBlank 't' = false by decide),
        uncons?_skipBlank (show isBlank 'f' = false by decide)] <;> rfl
  rw [hvalue]
  exact hword

private theorem value_array {items : List Json} (hallowed : 0 < allowed)
    (h : Yields (container (value depth (allowed - 1)) ']' cs) items rest) :
    Yields (value (depth + 1) allowed ('[' :: cs)) (.array items) rest := by
  obtain ⟨_, hitems⟩ := h
  have hvalue : value (depth + 1) allowed ('[' :: cs) =
      (container (value depth (allowed - 1)) ']' cs).map
        fun p => (nested allowed (.array p.1), p.2.after '[') := by
    simp only [value, uncons?_skipBlank (show isBlank '[' = false by decide)]
    rfl
  have hnested : nested allowed (.array items) = .array items := if_neg (Nat.ne_of_gt hallowed)
  rw [hvalue, hitems, Option.map_some, hnested]
  exact ⟨_, rfl⟩

private theorem ofMembers_some (members : List (String × Json)) :
    ofMembers (members.map fun m => (some m.1, m.2)) = .object members := by
  rw [ofMembers, mapM_map_eq_some (h := id)]
  · rw [List.map_id]
  · exact fun _ _ => rfl

private theorem value_object {members : List (String × Json)} (hallowed : 0 < allowed)
    (h : Yields (container (member (value depth (allowed - 1))) '\x7d' cs)
      (members.map fun m => (some m.1, m.2)) rest) :
    Yields (value (depth + 1) allowed ('\x7b' :: cs)) (.object members) rest := by
  obtain ⟨_, hmembers⟩ := h
  have hvalue : value (depth + 1) allowed ('\x7b' :: cs) =
      (container (member (value depth (allowed - 1))) '\x7d' cs).map
        fun p => (nested allowed (ofMembers p.1), p.2.after '\x7b') := by
    simp only [value, uncons?_skipBlank (show isBlank '\x7b' = false by decide)]
    rfl
  have hnested : nested allowed (.object members) = .object members := if_neg (Nat.ne_of_gt hallowed)
  rw [hvalue, hmembers, Option.map_some, ofMembers_some, hnested]
  exact ⟨_, rfl⟩

private theorem ne_nil_of_yields (h : Yields (value depth allowed cs) j rest) : cs ≠ [] := by
  rintro rfl
  obtain ⟨hlen, -⟩ := h
  exact Nat.not_lt_zero _ hlen

private theorem head_of_isNumericText {s : String} (hs : IsNumericText s) (hne : s.toList ≠ []) :
    ∃ c ∈ s.toList.head?, isBlank c = false ∧ c ≠ ']' := by
  cases hcs : s.toList with
  | nil => exact absurd hcs hne
  | cons c cs =>
    have hc : IsNumeric c := hs c (by simp [hcs])
    refine ⟨c, rfl, hc.not_blank, ?_⟩
    rintro rfl
    exact absurd hc (by simp [IsNumeric])

/-- No document starts with a blank or with the end of a list. -/
theorem Lossless.head_render (hj : j.Lossless) :
    ∃ c ∈ j.render.toList.head?, isBlank c = false ∧ c ≠ ']' := by
  cases hj with
  | null => exact ⟨'n', rfl, by decide⟩
  | bool b => cases b <;> exact ⟨_, rfl, by decide⟩
  | integer hmin hmax =>
    have hvalue := @value_integer [] 0 0 _ hmin hmax ends_nil
    rw [List.append_nil] at hvalue
    exact head_of_isNumericText (isNumericText_toString _) (ne_nil_of_yields hvalue)
  | real hx hreads =>
    have hnumeric := isNumericText_text hx
    have hvalue := @value_of_parse? [] 0 0 _ _ hnumeric hreads ends_nil
    rw [List.append_nil] at hvalue
    exact head_of_isNumericText hnumeric (ne_nil_of_yields hvalue)
  | string s =>
    rw [render, toList_quoted]
    exact ⟨'"', rfl, by decide⟩
  | array =>
    rw [toList_render_array]
    exact ⟨'[', rfl, by decide⟩
  | object =>
    rw [toList_render_object]
    exact ⟨'\x7b', rfl, by decide⟩

private theorem value_render_array {items : List Json} (hallowed : 0 < allowed)
    (hitems : ∀ x ∈ items, x.Lossless)
    (hread : ∀ x ∈ items, ∀ rest, Ends rest →
      Yields (value depth (allowed - 1) (x.render.toList ++ rest)) x rest) :
    Yields (value (depth + 1) allowed ((Json.array items).render.toList ++ rest)) (.array items)
      rest := by
  have htext : (Json.array items).render.toList ++ rest =
      '[' :: ([','].intercalate (items.map fun x => x.render.toList) ++ ']' :: rest) := by
    simp [toList_render_array]
  have hcontainer := @container_intercalate _ _ (value depth (allowed - 1)) ']' rest
    (fun x => x.render.toList) id items (.inl rfl) hread fun x hx => (hitems x hx).head_render
  rw [List.map_id] at hcontainer
  rw [htext]
  exact value_array hallowed hcontainer

private theorem value_render_object {members : List (String × Json)} (hallowed : 0 < allowed)
    (hread : ∀ m ∈ members, ∀ rest, Ends rest →
      Yields (value depth (allowed - 1) (m.2.render.toList ++ rest)) m.2 rest) :
    Yields (value (depth + 1) allowed ((Json.object members).render.toList ++ rest))
      (.object members) rest := by
  have htext : (Json.object members).render.toList ++ rest = '\x7b' ::
      ([','].intercalate (members.map fun m => (memberText m).toList) ++ '\x7d' :: rest) := by
    simp [toList_render_object]
  rw [htext]
  apply value_object hallowed
  apply container_intercalate (.inr rfl)
  · intro m hm rest hrest
    rw [toList_memberText, List.append_assoc, List.cons_append]
    exact member_quoted m.1 (hread m hm rest hrest)
  · intro m hm
    rw [toList_memberText, toList_quoted]
    exact ⟨'"', rfl, by decide⟩

/-- Wherever the text of a document stands, the document is read from it. -/
theorem value_render (hj : j.Lossless) {depth allowed : Nat} (hdepth : j.nesting ≤ depth)
    (hallowed : j.nesting ≤ allowed) {rest : List Char} (hrest : Ends rest) :
    Yields (value depth allowed (j.render.toList ++ rest)) j rest := by
  induction hj generalizing depth allowed rest with
  | null => exact @value_constant _ _ _ 'n' "ull" (by simp [constants]) rest
  | bool b =>
    cases b with
    | false => exact @value_constant _ _ _ 'f' "alse" (by simp [constants]) rest
    | true => exact @value_constant _ _ _ 't' "rue" (by simp [constants]) rest
  | integer hmin hmax => exact value_integer hmin hmax hrest
  | real hx hreads => exact value_of_parse? (isNumericText_text hx) hreads hrest
  | string s => exact value_quoted s
  | @array items hitems ih =>
    cases depth with
    | zero => exact absurd hdepth (Nat.not_succ_le_zero _)
    | succ depth =>
      have hd := itemNesting_le_iff.mp (Nat.le_of_succ_le_succ hdepth)
      have ha := itemNesting_le_iff.mp (Nat.le_sub_of_add_le hallowed)
      apply value_render_array (Nat.lt_of_lt_of_le (Nat.succ_pos _) hallowed) hitems
      exact fun x hx rest hrest => ih x hx (hd x hx) (ha x hx) hrest
  | @object members _ ih =>
    cases depth with
    | zero => exact absurd hdepth (Nat.not_succ_le_zero _)
    | succ depth =>
      have hd := memberNesting_le_iff.mp (Nat.le_of_succ_le_succ hdepth)
      have ha := memberNesting_le_iff.mp (Nat.le_sub_of_add_le hallowed)
      apply value_render_object (Nat.lt_of_lt_of_le (Nat.succ_pos _) hallowed)
      exact fun m hm rest hrest => ih m hm (hd m hm) (ha m hm) hrest

private theorem length_le_intercalate {l : List Char} {ls : List (List Char)} (h : l ∈ ls) :
    l.length ≤ ([','].intercalate ls).length := by
  induction ls with
  | nil => cases h
  | cons l' ls ih =>
    cases ls with
    | nil =>
      cases List.mem_singleton.mp h
      rw [List.intercalate_singleton]
    | cons l'' ls =>
      rw [List.intercalate_cons_cons]
      rcases List.mem_cons.mp h with rfl | h
      · simp only [List.length_append]
        omega
      · have := ih h
        simp only [List.length_append]
        omega

/-- No containers are deeper than their text is long. -/
theorem Lossless.nesting_le (hj : j.Lossless) : j.nesting ≤ j.render.length := by
  rw [← String.length_toList]
  induction hj with
  | array hitems ih =>
    rw [nesting, toList_render_array, List.length_cons, List.length_append]
    have hitem := itemNesting_le_iff.mpr fun x hx =>
      Nat.le_trans (ih x hx)
        (length_le_intercalate (List.mem_map_of_mem (f := fun x => x.render.toList) hx))
    omega
  | object hmembers ih =>
    rw [nesting, toList_render_object, List.length_cons, List.length_append]
    have hmember := memberNesting_le_iff.mpr fun m hm => by
      have htext : m.2.render.toList.length ≤ (memberText m).toList.length := by
        simp only [toList_memberText, List.length_append, List.length_cons]
        omega
      exact Nat.le_trans (ih m hm) (Nat.le_trans htext
        (length_le_intercalate (List.mem_map_of_mem (f := fun m => (memberText m).toList) hm)))
    omega
  | _ => exact Nat.zero_le _

theorem parse?_of_value {text : String} (h : Yields (value text.length depthLimit text.toList) j []) :
    parse? text = some j := by
  obtain ⟨_, hvalue⟩ := h
  rw [parse?, hvalue]
  rfl

/-- A document is read back from its text. -/
theorem parse?_render (hj : j.Lossless) (hnesting : j.nesting ≤ depthLimit) :
    parse? j.render = some j := by
  have hvalue := value_render hj hj.nesting_le hnesting ends_nil
  rw [List.append_nil] at hvalue
  exact parse?_of_value hvalue

end Documents
end ConstraintDirectives.Json

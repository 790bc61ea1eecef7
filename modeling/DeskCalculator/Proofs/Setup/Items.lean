import DeskCalculator.Proofs.Text.Trimming
import DeskCalculator.Setup.Settings

namespace DeskCalculator.Setup

/-- A text that can stand in a list: it is not empty, no comma divides it, and there are no blanks
around it. -/
structure IsItem (s : String) : Prop where
  nonempty : s ≠ ""
  undivided : ',' ∉ s.toList
  front : ∀ c ∈ s.toList.head?, Text.isBlank c = false
  back : ∀ c ∈ s.toList.getLast?, Text.isBlank c = false

/-- The parts are the items in their order with blanks around them, and any blank parts among
them. -/
inductive Padded : List String → List String → Prop where
  | nil : Padded [] []
  | blank {part : String} {items parts : List String} :
    Text.allBlank part = true → Padded items parts → Padded items (part :: parts)
  | item {left item right : String} {items parts : List String} :
    Text.allBlank left = true → Text.allBlank right = true → Padded items parts →
    Padded (item :: items) ((left ++ item ++ right) :: parts)

theorem isItem_iff {s : String} : IsItem s ↔
    s ≠ "" ∧ ',' ∉ s.toList ∧ Text.trimWhile Text.isBlank s.toList = s.toList := by
  rw [Text.trimWhile_eq_self_iff]
  exact ⟨fun h => ⟨h.nonempty, h.undivided, h.front, h.back⟩,
    fun h => ⟨h.1, h.2.1, h.2.2.1, h.2.2.2⟩⟩

instance (s : String) : Decidable (IsItem s) := decidable_of_iff _ isItem_iff.symm

namespace Settings

variable {item left right text : String} {items parts : List String} {cs : List Char}

/-- What one part of a list holds, if anything. -/
def itemOf? (part : List Char) : Option String :=
  let cs := Text.trimWhile Text.isBlank part
  if cs.isEmpty then none else some (String.ofList cs)

theorem listItems_eq (s : String) : listItems s = (s.toList.splitOn ',').filterMap itemOf? := by
  rw [listItems, List.filterMap_map, Text.splitAt_eq_splitOn]
  rfl

theorem itemOf?_of_blank (h : ∀ c ∈ cs, Text.isBlank c = true) : itemOf? cs = none := by
  rw [itemOf?, Text.trimWhile_eq_nil_iff.2 h]
  rfl

theorem itemOf?_padded (hi : IsItem item) (hl : Text.allBlank left = true)
    (hr : Text.allBlank right = true) : itemOf? (left ++ item ++ right).toList = some item := by
  have htrim := (isItem_iff.1 hi).2.2
  have hne : item.toList.isEmpty = false := by simpa using hi.nonempty
  rw [itemOf?, String.toList_append, String.toList_append,
    Text.trimWhile_pad (List.all_eq_true.1 hl) (List.all_eq_true.1 hr), htrim, hne]
  simp

theorem isItem_of_itemOf? (hc : ',' ∉ cs) (h : itemOf? cs = some item) : IsItem item := by
  rw [itemOf?] at h
  split_ifs at h with hne
  have hitem : item.toList = Text.trimWhile Text.isBlank cs := by
    rw [← Option.some.inj h, String.toList_ofList]
  refine isItem_iff.2 ⟨?_, ?_, ?_⟩
  · rw [← hitem] at hne
    simpa using hne
  · rw [hitem]
    exact fun hmem => hc (Text.mem_of_mem_trimWhile hmem)
  · rw [hitem, Text.trimWhile_idem]

theorem isItem_of_mem_listItems (h : item ∈ listItems text) : IsItem item := by
  rw [listItems_eq, ← Text.splitAt_eq_splitOn] at h
  obtain ⟨part, hpart, hitem⟩ := List.mem_filterMap.1 h
  exact isItem_of_itemOf? (Text.notMem_of_mem_splitAt hpart) hitem

theorem filterMap_padded (h : Padded items parts) (hi : ∀ s ∈ items, IsItem s) :
    (parts.map String.toList).filterMap itemOf? = items := by
  induction h with
  | nil => rfl
  | blank hb _ ih =>
    rw [List.map_cons, List.filterMap_cons_none (itemOf?_of_blank (List.all_eq_true.1 hb))]
    exact ih hi
  | item hl hr _ ih =>
    obtain ⟨hfirst, hrest⟩ := List.forall_mem_cons.1 hi
    rw [List.map_cons, List.filterMap_cons_some (itemOf?_padded hfirst hl hr), ih hrest]

theorem comma_notMem_of_allBlank (h : Text.allBlank text = true) : ',' ∉ text.toList := by
  intro hc
  have hb := List.all_eq_true.1 h ',' hc
  exact absurd hb (by decide)

theorem undivided_of_padded (h : Padded items parts) (hi : ∀ s ∈ items, IsItem s) :
    ∀ part ∈ parts, ',' ∉ part.toList := by
  induction h with
  | nil => simp
  | blank hb _ ih => exact List.forall_mem_cons.2 ⟨comma_notMem_of_allBlank hb, ih hi⟩
  | item hl hr _ ih =>
    obtain ⟨hfirst, hrest⟩ := List.forall_mem_cons.1 hi
    refine List.forall_mem_cons.2 ⟨?_, ih hrest⟩
    simp only [String.toList_append, List.mem_append, not_or]
    exact ⟨⟨comma_notMem_of_allBlank hl, hfirst.undivided⟩, comma_notMem_of_allBlank hr⟩

/-- The items that parts hold are found in the text that the parts make up. -/
theorem listItems_padded (h : Padded items parts) (hi : ∀ s ∈ items, IsItem s) :
    listItems (",".intercalate parts) = items := by
  have hcomma : ",".toList = [','] := rfl
  rw [← filterMap_padded h hi, listItems_eq, String.toList_intercalate, hcomma]
  by_cases hne : parts = []
  · -- no parts make up an empty text, which is one blank part
    rw [hne]
    rfl
  · have hundivided := undivided_of_padded h hi
    rw [List.splitOn_intercalate ',' (by simpa using hundivided) (by simpa using hne)]

/-- Items are parts of themselves without any blanks. -/
theorem padded_self (items : List String) : Padded items items := by
  induction items with
  | nil => exact .nil
  | cons item items ih =>
    have hcons : Padded (item :: items) (("" ++ item ++ "") :: items) := .item rfl rfl ih
    simpa using hcons

theorem origins_eq (text : String) :
    origins text = if listItems text = [] then ["*"] else listItems text := by
  rw [origins]
  split <;> simp_all

theorem origins_ne_nil (text : String) : origins text ≠ [] := by
  rw [origins_eq]
  split_ifs with h
  · simp
  · exact h

theorem isItem_everyone : IsItem "*" := by decide

theorem isItem_of_mem_origins (h : item ∈ origins text) : IsItem item := by
  rw [origins_eq] at h
  split_ifs at h
  · rw [List.mem_singleton.1 h]
    exact isItem_everyone
  · exact isItem_of_mem_listItems h

theorem origins_padded (h : Padded items parts) (hi : ∀ s ∈ items, IsItem s) :
    origins (",".intercalate parts) = if items = [] then ["*"] else items := by
  rw [origins_eq, listItems_padded h hi]

theorem origins_rejoined (text : String) :
    origins (",".intercalate (origins text)) = origins text := by
  rw [origins_padded (padded_self _) fun s hs => isItem_of_mem_origins hs,
    if_neg (origins_ne_nil text)]

/-- The environment's port can be read. -/
def HasPort (env : Environment) : Prop :=
  ∃ port, Port.ofText? ((env "PORT").getD "3000") = some port

theorem HasPort.exists_origins {env : Environment} (h : HasPort env) :
    ∃ st, ofEnvironment env = .ok st ∧
      st.corsOrigins = origins ((env "CORS_ORIGINS").getD "*") := by
  obtain ⟨port, hport⟩ := h
  obtain ⟨st, hst, -, horigins⟩ := ofEnvironment_of_port hport
  exact ⟨st, hst, horigins⟩

theorem HasPort.exists_origins_of_text {env : Environment} (h : HasPort env)
    (ht : env "CORS_ORIGINS" = some text) :
    ∃ st, ofEnvironment env = .ok st ∧ st.corsOrigins = origins text := by
  have horigins := h.exists_origins
  rw [ht] at horigins
  exact horigins

/-- The allowed origins of an environment whose port can be read. There is at least one, and each
can stand in a list. Items that are joined with commas are read back as they are, with any blanks
around them and any blank parts among them. Blank parts alone admit every origin. Origins that were
read and are joined again give themselves. -/
theorem origins_joined :
    (∀ env, HasPort env → ∃ st, ofEnvironment env = .ok st ∧ st.corsOrigins ≠ [] ∧
      ∀ s ∈ st.corsOrigins, IsItem s) ∧
    (∀ env items parts, HasPort env → items ≠ [] → (∀ s ∈ items, IsItem s) → Padded items parts →
      env "CORS_ORIGINS" = some (",".intercalate parts) →
      ∃ st, ofEnvironment env = .ok st ∧ st.corsOrigins = items) ∧
    (∀ env parts, HasPort env → Padded [] parts →
      env "CORS_ORIGINS" = some (",".intercalate parts) →
      ∃ st, ofEnvironment env = .ok st ∧ st.corsOrigins = ["*"]) ∧
    ∀ env env₂ st, ofEnvironment env = .ok st → HasPort env₂ →
      env₂ "CORS_ORIGINS" = some (",".intercalate st.corsOrigins) →
      ∃ st₂, ofEnvironment env₂ = .ok st₂ ∧ st₂.corsOrigins = st.corsOrigins := by
  refine ⟨?_, ?_, ?_, ?_⟩
  · intro env henv
    obtain ⟨st, hst, horigins⟩ := henv.exists_origins
    refine ⟨st, hst, ?_⟩
    rw [horigins]
    exact ⟨origins_ne_nil _, fun s hs => isItem_of_mem_origins hs⟩
  · intro env items parts henv hne hi hp ht
    have h := henv.exists_origins_of_text ht
    rw [origins_padded hp hi, if_neg hne] at h
    exact h
  · intro env parts henv hp ht
    have h := henv.exists_origins_of_text ht
    rw [origins_padded hp (by simp), if_pos rfl] at h
    exact h
  · intro env env₂ st hst henv₂ ht
    have horigins := (read_of_ofEnvironment hst).2
    have h := henv₂.exists_origins_of_text ht
    rw [horigins, origins_rejoined, ← horigins] at h
    exact h

/-- Blanks inside an item stay, and so does an item that comes twice. -/
theorem origins_joined_twice :
    let items := ["http://a", "b c", "http://a"]
    let parts := ["", " http://a\t", "b c", "  ", "http://a"]
    let env : Environment := fun name =>
      if name = "CORS_ORIGINS" then some ", http://a\t,b c,  ,http://a" else none
    HasPort env ∧ Padded items parts ∧
      ∃ st, ofEnvironment env = .ok st ∧ st.corsOrigins = items := by
  intro items parts env
  have hport : HasPort env := ⟨3000, by decide⟩
  have hparts : Padded items parts :=
    .blank rfl <| @Padded.item " " "http://a" "\t" _ _ rfl rfl <|
      @Padded.item "" "b c" "" _ _ rfl rfl <| .blank rfl <|
      @Padded.item "" "http://a" "" _ _ rfl rfl .nil
  have hfirst : IsItem "http://a" := by decide
  have hsecond : IsItem "b c" := by decide
  have hitems : ∀ s ∈ items, IsItem s := by
    simp only [items, List.forall_mem_cons]
    exact ⟨hfirst, hsecond, hfirst, by simp⟩
  exact ⟨hport, hparts,
    origins_joined.2.1 env items parts hport (by simp [items]) hitems hparts (by decide)⟩

example : origins " , ,\t" = ["*"] := by decide

end Settings

end DeskCalculator.Setup

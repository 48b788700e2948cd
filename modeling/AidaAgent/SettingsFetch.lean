import AidaAgent.SettingsResolve

namespace AidaAgent.PlatformConfig
open JsonText PythonText UrlSplit Config

-- What a computation comes to once its fuel suffices.
def Returns (f : Nat → Option α) (result : α) : Prop := ∃ fuel, ∀ more, f (fuel + more) = some result

theorem Returns.unique (one : Returns f a) (two : Returns f b) : a = b := by
  obtain ⟨m,first⟩ := one
  obtain ⟨n,second⟩ := two
  have left := first n
  have right := second m
  rw [Nat.add_comm n m] at right
  exact Option.some.inj (left.symm.trans right)

theorem Returns.map {f : Nat → Option α} {result : α} (g : α → β) (returned : Returns f result) :
    Returns (fun fuel => (f fuel).map g) (g result) := by
  obtain ⟨fuel,enough⟩ := returned
  exact ⟨fuel,fun more => by simp only [enough more,Option.map_some]⟩

-- The page says nothing about being the last one, or says what is the case.
inductive Truthful (page : Row) (last : Bool) : Prop where
  | absent : get page "pageInfo" = none → Truthful page last
  | null : get page "pageInfo" = some .null → Truthful page last
  | unsaid (fields : Row) : get page "pageInfo" = some (.obj fields) → get fields "isLastPage" = none →
      Truthful page last
  | stated (fields : Row) : get page "pageInfo" = some (.obj fields) → get fields "isLastPage" = some (.bool last) →
      Truthful page last

def Lists (server : Server) (url token : String) (items : List Json) (fits : Row → Prop) : Prop :=
  requestable server.unicode url.toList = true ∧
  ∃ payload, server.answer url token = .document (.obj payload) ∧ get payload "list" = some (.arr items) ∧ fits payload

-- A store that has the base and the table once, and answers a request from an
-- offset with `count offset` of the records that stand there.
structure Serves (py : Printer) (server : Server) (base token table : String) (rows : List Row) (count : Nat → Nat) :
    Prop where
  found : ∃ items fields id items' fields',
    Lists server (base ++ basesPath) token items (fun _ => True) ∧ titled baseName items = .ok [fields] ∧
    idOf py fields = .ok id ∧ Lists server (base ++ tablesPath id) token items' (fun _ => True) ∧
    titled tableName items' = .ok [fields'] ∧ idOf py fields' = .ok table
  page : ∀ offset, Lists server (base ++ recordsPath table offset) token
    (((rows.drop offset).take (count offset)).map .obj)
    fun payload => Truthful payload (decide (rows.length ≤ offset + count offset))
  most : ∀ offset, count offset ≤ pageSize
  within : ∀ offset, count offset ≤ rows.length - offset
  some_ : ∀ offset, offset < rows.length → 1 ≤ count offset

theorem api_lists (listed : Lists server (base ++ path) token items fits) :
    ∃ payload, api server base token path = .ok (payload,items) ∧ fits payload := by
  obtain ⟨requested,payload,answered,list,held⟩ := listed
  refine ⟨payload,?_,held⟩
  unfold api
  rw [if_pos requested,answered]
  dsimp only
  rw [list]

variable {py : Printer} {server : Server} {base token table : String} {rows : List Row} {count : Nat → Nat}

theorem Serves.tableId (serves : Serves py server base token table rows count) :
    PlatformConfig.tableId py server base token = .ok table := by
  obtain ⟨items,fields,id,items',fields',first,base_,named,second,table_,own⟩ := serves.found
  obtain ⟨payload,answered,_⟩ := api_lists first
  obtain ⟨payload',answered',_⟩ := api_lists second
  simp only [PlatformConfig.tableId,answered,base_,named,answered',table_,own,bind,Except.bind]

theorem isLastPage_truthful (truthful : Truthful page last) :
    ∃ stops, isLastPage py page = .ok stops ∧ (stops = true → last = true) := by
  unfold isLastPage
  cases truthful with
  | absent none =>
    rw [none]
    exact ⟨false,rfl,by simp⟩
  | null none =>
    rw [none]
    exact ⟨false,rfl,by simp⟩
  | unsaid fields info none =>
    rw [info]
    refine ⟨false,?_,by simp⟩
    dsimp only
    rw [none]
    split <;> rfl
  | stated fields info flag =>
    rw [info]
    refine ⟨last,?_,id⟩
    have full : truthy py.toInterpreter (.obj fields) = true := by
      cases fields with
      | nil => cases flag
      | cons => rfl
    dsimp only
    rw [if_pos full,flag]
    cases last <;> rfl

-- What has been read when the loop asks for an offset.
def readTo (rows : List Row) (offset : Nat) : List Json := (rows.take offset).map .obj

theorem readTo_page (rows : List Row) (offset size : Nat) :
    readTo rows offset ++ ((rows.drop offset).take size).map .obj = readTo rows (offset + size) := by
  rw [readTo,readTo,List.take_add,List.map_append]

theorem readTo_whole (past : rows.length ≤ offset) : readTo rows offset = rows.map .obj := by
  rw [readTo,List.take_of_length_le past]

theorem page_length (serves : Serves py server base token table rows count) (offset : Nat) :
    (((rows.drop offset).take (count offset)).map Json.obj).length = count offset := by
  have within := serves.within offset
  rw [List.length_map,List.length_take,List.length_drop]
  omega

theorem readRows_stops (serves : Serves py server base token table rows count) (short : count offset < pageSize)
    (fuel : Nat) :
    readRows py server base token table (fuel + 1) offset (readTo rows offset) =
      some (.ok (readTo rows (offset + count offset))) := by
  obtain ⟨payload,answered,_⟩ := api_lists (serves.page offset)
  rw [readRows,answered]
  dsimp only
  rw [page_length serves,if_pos short,readTo_page]

theorem readRows_goes (serves : Serves py server base token table rows count) (full : count offset = pageSize)
    (fuel : Nat) :
    (rows.length ≤ offset + pageSize ∧ readRows py server base token table (fuel + 1) offset (readTo rows offset) =
      some (.ok (readTo rows (offset + pageSize)))) ∨
    readRows py server base token table (fuel + 1) offset (readTo rows offset) =
      readRows py server base token table fuel (offset + pageSize) (readTo rows (offset + pageSize)) := by
  obtain ⟨payload,answered,truthful⟩ := api_lists (serves.page offset)
  obtain ⟨stops,flag,honest⟩ := @isLastPage_truthful py _ _ truthful
  rw [readRows,answered]
  dsimp only
  rw [page_length serves,full,if_neg (Nat.lt_irrefl _),flag]
  rw [full] at honest
  cases stops with
  | true =>
    refine .inl ⟨by simpa using honest rfl,?_⟩
    dsimp only
    rw [readTo_page]
  | false =>
    refine .inr ?_
    dsimp only
    rw [readTo_page]

-- Where every page is full or the end, the loop reads the whole table.
theorem readRows_whole (serves : Serves py server base token table rows count)
    (full : ∀ j, first ≤ j → pageSize * j < rows.length → count (pageSize * j) = min pageSize (rows.length - pageSize * j))
    (enough : rows.length ≤ pageSize * (first + pages)) (more : Nat) :
    readRows py server base token table (pages + 1 + more) (pageSize * first) (readTo rows (pageSize * first)) =
      some (.ok (rows.map .obj)) := by
  have ended : ∀ fuel first, rows.length ≤ pageSize * first →
      readRows py server base token table (fuel + 1) (pageSize * first) (readTo rows (pageSize * first)) =
        some (.ok (rows.map .obj)) := by
    intro fuel first past
    have none : count (pageSize * first) = 0 := by
      have within := serves.within (pageSize * first)
      omega
    rw [readRows_stops serves (by rw [none]; decide),none,Nat.add_zero,readTo_whole past]
  induction pages generalizing first with
  | zero =>
    rw [Nat.zero_add,Nat.add_comm]
    exact ended more first enough
  | succ pages ih =>
    have fuels : pages + 1 + 1 + more = pages + 1 + more + 1 := by omega
    rw [fuels]
    rcases Nat.lt_or_ge (pageSize * first) rows.length with inside | past
    · have size := full first (Nat.le_refl _) inside
      rcases Nat.lt_or_ge (count (pageSize * first)) pageSize with short | large
      · rw [readRows_stops serves short,readTo_whole (by omega)]
      · have exactly : count (pageSize * first) = pageSize := by omega
        have next : pageSize * (first + 1) = pageSize * first + pageSize := Nat.mul_succ _ _
        rcases readRows_goes serves exactly (pages + 1 + more) with ⟨past,stopped⟩ | goes
        · rw [stopped,readTo_whole past]
        · rw [goes,← next]
          apply ih
          · exact fun j later => full j (by omega)
          · rw [Nat.add_assoc,Nat.add_comm 1 pages]
            exact enough
    · exact ended (pages + 1 + more) first past

-- A page that is neither ends the loop early.
theorem readRows_early (serves : Serves py server base token table rows count)
    (before : ∀ i, i < last → count (pageSize * i) = pageSize) (inside : pageSize * last < rows.length)
    (short : count (pageSize * last) ≠ min pageSize (rows.length - pageSize * last)) (pages : Nat)
    (reached : pages ≤ last) (more : Nat) :
    readRows py server base token table (pages + 1 + more) (pageSize * (last - pages))
        (readTo rows (pageSize * (last - pages))) =
      some (.ok (readTo rows (pageSize * last + count (pageSize * last)))) := by
  induction pages with
  | zero =>
    have most := serves.most (pageSize * last)
    have within := serves.within (pageSize * last)
    rw [Nat.zero_add,Nat.add_comm,Nat.sub_zero]
    exact readRows_stops serves (by omega) more
  | succ pages ih =>
    have fuels : pages + 1 + 1 + more = pages + 1 + more + 1 := by omega
    have next : pageSize * (last - (pages + 1)) + pageSize = pageSize * (last - pages) := by
      rw [← Nat.mul_succ]
      congr 1
      omega
    have below : pageSize * (last - pages) ≤ pageSize * last := Nat.mul_le_mul_left _ (Nat.sub_le _ _)
    rw [fuels]
    rcases readRows_goes serves (before (last - (pages + 1)) (by omega)) (pages + 1 + more) with ⟨past,_⟩ | goes
    · omega
    · rw [goes,next]
      exact ih (by omega)

-- A store at one address that keeps the rows and answers with at most `cap` of them.
def pageOf (rows : List Row) (cap offset : Nat) : Row :=
  [("list",.arr (((rows.drop offset).take (min cap (rows.length - offset))).map .obj)),
   ("pageInfo",.obj [("isLastPage",.bool (decide (rows.length ≤ offset + min cap (rows.length - offset))))])]

def asciiUnicode : Unicode := ⟨fun _ => false,fun _ => false,(·.map Char.toLower)⟩

def shelf (base : String) (rows : List Row) (cap : Nat) : Server where
  unicode := asciiUnicode
  answer url _ :=
    if url = base ++ basesPath then
      .document (.obj [("list",.arr [.obj [("id",.str "b"),("title",.str baseName)]])])
    else if url = base ++ tablesPath "b" then
      .document (.obj [("list",.arr [.obj [("id",.str "t"),("title",.str tableName)]])])
    else
      match (List.range rows.length).find? fun offset => url = base ++ recordsPath "t" offset with
      | some offset => .document (.obj (pageOf rows cap offset))
      | none => .document (.obj (pageOf rows cap rows.length))

theorem recordsPath_inj : recordsPath table m = recordsPath table n ↔ m = n := by
  unfold recordsPath
  rw [String.append_right_inj,Nat.repr_inj]

theorem mark_apart {one two : String} (i : Nat) (other : one.toList[i]? ≠ two.toList[i]?) : one ≠ two := by
  intro same
  rw [same] at other
  exact other rfl

theorem recordsPath_apart (offset : Nat) : recordsPath "t" offset ≠ basesPath ∧ recordsPath "t" offset ≠ tablesPath "b" := by
  constructor
  · apply mark_apart 8
    unfold recordsPath basesPath
    simp
  · apply mark_apart 8
    unfold recordsPath tablesPath
    simp

theorem shelf_records (base token : String) (rows : List Row) (cap offset : Nat) :
    (shelf base rows cap).answer (base ++ recordsPath "t" offset) token =
      .document (.obj (pageOf rows cap (min offset rows.length))) := by
  obtain ⟨bases,tables⟩ := recordsPath_apart offset
  unfold shelf
  simp only [String.append_right_inj,recordsPath_inj,bases,tables,if_false]
  cases found : (List.range rows.length).find? (fun other => decide (offset = other)) with
  | some other =>
    have same : offset = other := by simpa using List.find?_some found
    have inside := List.mem_range.mp (List.mem_of_find?_eq_some found)
    rw [same,Nat.min_eq_left (Nat.le_of_lt inside)]
  | none =>
    have outside : rows.length ≤ offset := by
      apply Nat.le_of_not_lt
      intro inside
      have missed := List.find?_eq_none.mp found offset (List.mem_range.mpr inside)
      simp at missed
    rw [Nat.min_eq_right outside]

-- Every address that is asked for under a base can be requested.
def Requested (base : String) : Prop := ∀ path, path = basesPath ∨ path = tablesPath "b" ∨
  (∃ offset, path = recordsPath "t" offset) → requestable asciiUnicode (base ++ path).toList = true

theorem shelf_serves {base token : String} {cap : Nat} (requested : Requested base) (some_ : 1 ≤ cap) (most : cap ≤ pageSize) :
    Serves py (shelf base rows cap) base token "t" rows fun offset => min cap (rows.length - offset) := by
  have bases : Lists (shelf base rows cap) (base ++ basesPath) token [.obj [("id",.str "b"),("title",.str baseName)]]
      fun _ => True := ⟨requested _ (.inl rfl),_,if_pos rfl,rfl,trivial⟩
  have tables : Lists (shelf base rows cap) (base ++ tablesPath "b") token
      [.obj [("id",.str "t"),("title",.str tableName)]] fun _ => True := by
    have apart : tablesPath "b" ≠ basesPath := by
      apply mark_apart 18
      unfold tablesPath basesPath
      simp
    refine ⟨requested _ (.inr (.inl rfl)),[("list",.arr [.obj [("id",.str "t"),("title",.str tableName)]])],?_,rfl,trivial⟩
    rw [shelf]
    dsimp only
    rw [if_neg (by simpa [String.append_right_inj] using apart),if_pos rfl]
  refine ⟨⟨_,[("id",.str "b"),("title",.str baseName)],"b",_,[("id",.str "t"),("title",.str tableName)],bases,?_,?_,tables,
    ?_,?_⟩,fun offset => ?_,fun offset => ?_,fun offset => Nat.min_le_right _ _,
    fun offset inside => ?_⟩
  · rfl
  · rfl
  · rfl
  · rfl
  · refine ⟨requested _ (.inr (.inr ⟨offset,rfl⟩)),_,shelf_records base token rows cap offset,?_,?_⟩
    · have page : (rows.drop (min offset rows.length)).take (min cap (rows.length - min offset rows.length)) =
          (rows.drop offset).take (min cap (rows.length - offset)) := by
        rcases Nat.le_total offset rows.length with inside | past
        · rw [Nat.min_eq_left inside]
        · rw [Nat.min_eq_right past,List.drop_eq_nil_of_le (Nat.le_refl _),List.drop_eq_nil_of_le past]
          simp
      rw [← page]
      rfl
    · refine .stated _ rfl ?_
      have last : (rows.length ≤ min offset rows.length + min cap (rows.length - min offset rows.length)) ↔
          rows.length ≤ offset + min cap (rows.length - offset) := by omega
      rw [← decide_eq_decide.mpr last]
      rfl
  · exact Nat.le_trans (Nat.min_le_left _ _) most
  · omega

def isVisible (c : Char) : Bool := decide (33 ≤ c.toNat) && decide (c.toNat ≤ 126) && c ≠ '#'

theorem visible_plain (visible : isVisible c = true) : 32 < c.toNat ∧ isSpace c = false ∧ c ≠ '#' := by
  simp only [isVisible,ne_eq,Bool.and_eq_true,decide_eq_true_eq] at visible
  obtain ⟨⟨low,high⟩,other⟩ := visible
  refine ⟨low,?_,other⟩
  simp only [isSpace,Bool.or_eq_false_iff,Bool.and_eq_false_iff,decide_eq_false_iff_not]
  omega

theorem digits_visible (n : Nat) : n.repr.toList.all isVisible = true := by
  rw [List.all_eq_true,Nat.toList_repr]
  intro c member
  have digit := Nat.isDigit_of_mem_toDigits (by decide) (by decide) member
  simp only [Char.isDigit,ge_iff_le,Bool.and_eq_true,decide_eq_true_eq] at digit
  have low : 48 ≤ c.toNat := digit.1
  have high : c.toNat ≤ 57 := digit.2
  have other : c ≠ '#' := by
    rintro rfl
    revert low
    decide
  simp only [isVisible,Bool.and_eq_true,decide_eq_true_eq]
  exact ⟨⟨by omega,by omega⟩,other⟩

def storeHost : List Char := ['s','t','o','r','e']

-- A path of printed characters is requested from the store.
theorem store_requested {path : String} (slash : ∃ rest, path.toList = '/' :: rest) (plain : path.toList.all isVisible = true) :
    requestable asciiUnicode ("https://store" ++ path).toList = true := by
  have scheme : Scheme ['h','t','t','p','s'] := ⟨⟨'h',['t','t','p','s'],rfl,by decide⟩,List.all_eq_true.mp (by decide)⟩
  have undelimited : storeHost.all (fun c => !isDelimiter c) = true := by decide
  have valid : Netloc asciiUnicode storeHost := by
    refine ⟨fun c member => ?_,by decide,.inl (by decide)⟩
    simpa using List.all_eq_true.mp undelimited c member
  have whole : ("https://store" ++ path).toList = ['h','t','t','p','s'] ++ separator ++ storeHost ++ path.toList := by
    rw [String.toList_append]
    rfl
  have front : (['h','t','t','p','s'] ++ separator ++ storeHost).all isVisible = true := by decide
  rw [whole]
  apply requestable_built scheme valid (.inr slash)
  · intro c member
    apply visible_plain
    rcases List.mem_append.mp member with host | own
    · exact List.all_eq_true.mp front c host
    · exact List.all_eq_true.mp plain c own
  · simp [separator,storeHost]

def tablesFront : List Char := ['/','a','p','i','/','v','2','/','t','a','b','l','e','s','/']

theorem store_address : Requested "https://store" := by
  intro path known
  rcases known with rfl | rfl | ⟨offset,rfl⟩
  · exact store_requested ⟨_,rfl⟩ (by decide)
  · exact store_requested ⟨_,rfl⟩ (by decide)
  · have front : "/api/v2/tables/".toList = tablesFront := by decide
    have marks : ("t".toList ++ "/records?limit=".toList ++ "&offset=".toList).all isVisible = true := by decide
    have named : tablesFront.all isVisible = true := by decide
    have limit := digits_visible pageSize
    have last := digits_visible offset
    rw [List.all_append,List.all_append,Bool.and_eq_true,Bool.and_eq_true] at marks
    unfold recordsPath
    generalize pageSize.repr = limitText at limit ⊢
    generalize offset.repr = offsetText at last ⊢
    apply store_requested
    · rw [String.append_assoc,String.append_assoc,String.append_assoc,String.append_assoc,String.toList_append,front]
      exact ⟨_,rfl⟩
    · rw [String.toList_append,String.toList_append,String.toList_append,String.toList_append,String.toList_append,front]
      rw [List.all_append,List.all_append,List.all_append,List.all_append,List.all_append,named,marks.1.1,marks.1.2,limit,
        marks.2,last]
      rfl

end AidaAgent.PlatformConfig

import ConcretID.Library.Split

namespace concretid.raspberry

open library (before)

/-- A string of bytes. -/
abbrev Line := List Char

inductive PyException where
  | IndexError
  | ValueError
  | RequestException
  deriving DecidableEq

structure Fields where
  rfid : Line
  lati : Line
  longi : Line
  deriving DecidableEq

structure Payload where
  rfid : Line
  x : Line
  y : Line
  status : Line

/-- What the server prints and posts, in order. -/
inductive Output where
  | print (text : Line)
  | post (payload : Payload)

structure Run where
  output : List Output
  raised : Option PyException

/-- `readline` gives `data`; a POST then gets its status from `answer`, or `requests`
raises. -/
structure Turn where
  data : Line
  answer : Payload → Option Nat

/-- An exception ends the run. -/
def Run.andThen (first next : Run) : Run :=
  match first.raised with
  | some e => ⟨first.output, some e⟩
  | none => ⟨first.output ++ next.output, next.raised⟩

/-! ## The line -/

/-- `parts[i]` -/
def item (parts : List Line) (i : Nat) : Except PyException Line :=
  match parts[i]? with
  | some part => .ok part
  | none => .error .IndexError

/-- `text.index(c)` -/
def index (text : Line) (c : Char) : Except PyException Nat :=
  if c ∈ text then .ok (text.idxOf c) else .error .ValueError

/-- The first statement of `post_location`. -/
def location (data : Line) : Except PyException Fields := do
  let text ← item (data.splitOn ':') 1
  let stop ← index text ';'
  match (text.take stop).splitOn ',' with
  | [rfid, lati, longi] => .ok ⟨rfid, lati, longi⟩
  | _ => .error .ValueError

/-- The test of `start_posting`. -/
def guard (data : Line) : Except PyException Bool :=
  if data.take 2 = ['L', ':'] ∧ data.count ',' = 2 then do
    let text ← item (data.splitOn ',') 2
    .ok (decide (';' ∈ text))
  else .ok false

/-! ## The server -/

def post_location (turn : Turn) : Run :=
  match location turn.data with
  | .error e => ⟨[], some e⟩
  | .ok ⟨rfid, lati, longi⟩ =>
    let payload : Payload := ⟨rfid, longi, lati, []⟩
    let found : Output := .print ("Postando nova localizacao: id:".toList ++ rfid ++ ", lati:".toList ++ lati ++
      ", longi:".toList ++ longi)
    match turn.answer payload with
    | none => ⟨[found, .post payload], some .RequestException⟩
    | some status_code =>
      if status_code = 200 then
        ⟨[found, .post payload, .print "Localizacao postada com sucesso\n".toList], none⟩
      else ⟨[found, .post payload, .print "Problema no post".toList], none⟩

/-- One pass of the loop of `start_posting`. -/
def serve (turn : Turn) : Run :=
  if turn.data.length = 0 then ⟨[], none⟩
  else
    match guard turn.data with
    | .error e => ⟨[], some e⟩
    | .ok true => (Run.mk [.print ("Recebeu ".toList ++ turn.data)] none).andThen (post_location turn)
    | .ok false => ⟨[.print ("Comando invalido -> ".toList ++ turn.data)], none⟩

def posting : List Turn → Run
  | [] => ⟨[], none⟩
  | turn :: turns => (serve turn).andThen (posting turns)

def start_posting (turns : List Turn) : Run :=
  (Run.mk [.print "Aguardando dados..\n".toList] none).andThen (posting turns)

/-! ## The fields of a line -/

/-- The fields as they stand in a line. -/
def Fields.text (f : Fields) : Line := f.rfid ++ ',' :: (f.lati ++ ',' :: f.longi)

/-- The line begins `L:`, the fields follow with the two commas of the line between
them, and the first `;` after the second comma ends the third field. -/
structure Shows (data : Line) (f : Fields) : Prop where
  eq : ∃ rest, ',' ∉ rest ∧ data = 'L' :: ':' :: (f.text ++ ';' :: rest)
  rfid : ',' ∉ f.rfid
  lati : ',' ∉ f.lati
  longi : ',' ∉ f.longi
  ends : ';' ∉ f.longi

/-- No field has the other two separators in it. -/
structure Fields.Plain (f : Fields) : Prop where
  colon : ':' ∉ f.text
  semicolon : ';' ∉ f.text

theorem splitOn_text {f : Fields} (hrfid : ',' ∉ f.rfid) (hlati : ',' ∉ f.lati) (hlongi : ',' ∉ f.longi) :
    f.text.splitOn ',' = [f.rfid, f.lati, f.longi] := by
  rw [Fields.text, List.splitOn_append_cons_self_of_not_mem hrfid,
    List.splitOn_append_cons_self_of_not_mem hlati, List.splitOn_eq_singleton hlongi]

/-- Two commas cut a text into three. -/
theorem exists_three {text : Line} (h : text.count ',' = 2) :
    ∃ first second third, text = first ++ ',' :: (second ++ ',' :: third) ∧
      ',' ∉ first ∧ ',' ∉ second ∧ ',' ∉ third := by
  have hcomma : ',' ∈ text := List.count_pos_iff.mp (by omega)
  obtain ⟨first, rest, rfl, hfirst⟩ := List.eq_append_cons_of_mem hcomma
  rw [List.count_append, List.count_eq_zero_of_not_mem hfirst, List.count_cons_self] at h
  have hcomma' : ',' ∈ rest := List.count_pos_iff.mp (by omega)
  obtain ⟨second, third, rfl, hsecond⟩ := List.eq_append_cons_of_mem hcomma'
  rw [List.count_append, List.count_eq_zero_of_not_mem hsecond, List.count_cons_self] at h
  exact ⟨first, second, third, rfl, hfirst, hsecond, List.count_eq_zero.mp (by omega)⟩

/-- The third part of a line with two commas behind `L:`. -/
theorem item_third {first second third : Line} (hfirst : ',' ∉ first) (hsecond : ',' ∉ second)
    (hthird : ',' ∉ third) :
    item (('L' :: ':' :: (first ++ ',' :: (second ++ ',' :: third))).splitOn ',') 2 = .ok third := by
  have hstart : ',' ∉ 'L' :: ':' :: first := by
    simp only [List.mem_cons, not_or]
    exact ⟨by decide, by decide, hfirst⟩
  rw [← List.cons_append, ← List.cons_append, List.splitOn_append_cons_self_of_not_mem hstart,
    List.splitOn_append_cons_self_of_not_mem hsecond, List.splitOn_eq_singleton hthird]
  rfl

/-- The test looks at the third part only where there is one. -/
theorem guard_eq {first second third : Line} (hfirst : ',' ∉ first) (hsecond : ',' ∉ second)
    (hthird : ',' ∉ third) :
    guard ('L' :: ':' :: (first ++ ',' :: (second ++ ',' :: third))) = .ok (decide (';' ∈ third)) := by
  have hcount : ('L' :: ':' :: (first ++ ',' :: (second ++ ',' :: third))).count ',' = 2 := by
    rw [List.count_cons_of_ne (by decide), List.count_cons_of_ne (by decide), List.count_append,
      List.count_eq_zero_of_not_mem hfirst, List.count_cons_self, List.count_append,
      List.count_eq_zero_of_not_mem hsecond, List.count_cons_self, List.count_eq_zero_of_not_mem hthird]
  rw [guard, if_pos ⟨rfl, hcount⟩, item_third hfirst hsecond hthird]
  rfl

/-- What the test lets pass begins `L:` and has two commas. -/
theorem starts_of_guard {data : Line} (h : data.take 2 = ['L', ':'] ∧ data.count ',' = 2) :
    ∃ first second third, data = 'L' :: ':' :: (first ++ ',' :: (second ++ ',' :: third)) ∧
      ',' ∉ first ∧ ',' ∉ second ∧ ',' ∉ third := by
  obtain ⟨hstart, hcount⟩ := h
  have hdata : data = 'L' :: ':' :: data.drop 2 := by
    conv_lhs => rw [← List.take_append_drop 2 data, hstart]
    rfl
  rw [hdata, List.count_cons_of_ne (by decide), List.count_cons_of_ne (by decide)] at hcount
  obtain ⟨first, second, third, htext, hparts⟩ := exists_three hcount
  rw [htext] at hdata
  exact ⟨first, second, third, hdata, hparts⟩

/-- The test itself raises nothing. -/
theorem guard_ok (data : Line) : ∃ passed, guard data = .ok passed := by
  by_cases h : data.take 2 = ['L', ':'] ∧ data.count ',' = 2
  · obtain ⟨first, second, third, rfl, hfirst, hsecond, hthird⟩ := starts_of_guard h
    exact ⟨_, guard_eq hfirst hsecond hthird⟩
  · exact ⟨false, if_neg h⟩

/-- A line that passes the test shows three fields. -/
theorem shows_of_guard {data : Line} (h : guard data = .ok true) : ∃ f, Shows data f := by
  by_cases hdata : data.take 2 = ['L', ':'] ∧ data.count ',' = 2
  · obtain ⟨first, second, third, rfl, hfirst, hsecond, hthird⟩ := starts_of_guard hdata
    rw [guard_eq hfirst hsecond hthird] at h
    have hmem : ';' ∈ third := of_decide_eq_true (Except.ok.inj h)
    obtain ⟨longi, rest, rfl, hends⟩ := List.eq_append_cons_of_mem hmem
    rw [List.mem_append, List.mem_cons, not_or, not_or] at hthird
    refine ⟨⟨first, second, longi⟩, ⟨⟨rest, hthird.2.2, ?_⟩, hfirst, hsecond, hthird.1, hends⟩⟩
    simp only [Fields.text, List.append_assoc, List.cons_append]
  · rw [guard, if_neg hdata] at h
    cases h

/-! ## The fields taken out -/

/-- `post_location` cuts the text behind the first colon at the next one, and then
at the first semicolon. -/
theorem location_eq (text : Line) :
    location ('L' :: ':' :: text) =
      if ';' ∈ before ':' text then
        match (before ';' (before ':' text)).splitOn ',' with
        | [rfid, lati, longi] => .ok ⟨rfid, lati, longi⟩
        | _ => .error .ValueError
      else .error .ValueError := by
  obtain ⟨parts, hparts⟩ := library.splitOn_eq_before_cons ':' text
  have hsplit : ('L' :: ':' :: text).splitOn ':' = ['L'] :: before ':' text :: parts := by
    rw [← hparts]
    have hletter : ':' ∉ ['L'] := by decide
    exact List.splitOn_append_cons_self_of_not_mem hletter text
  have hitem : item (('L' :: ':' :: text).splitOn ':') 1 = .ok (before ':' text) := by
    rw [hsplit]
    rfl
  rw [location, hitem]
  by_cases hmem : ';' ∈ before ':' text
  · rw [if_pos hmem, ← library.take_idxOf ';' (before ':' text)]
    simp only [index, bind, Except.bind, if_pos hmem]
  · rw [if_neg hmem]
    simp only [index, bind, Except.bind, if_neg hmem]

/-- The fields of a plain line are taken out as they stand there. -/
theorem location_of_plain {data : Line} {f : Fields} (hshows : Shows data f) (hplain : f.Plain) :
    location data = .ok f := by
  obtain ⟨⟨rest, -, rfl⟩, hrfid, hlati, hlongi, -⟩ := hshows
  rw [location_eq]
  have hcut : before ';' (before ':' (f.text ++ ';' :: rest)) = f.text := by
    rw [library.before_before, library.before_append_cons hplain.semicolon,
      library.before_eq_self hplain.colon]
  have hmem : ';' ∈ before ':' (f.text ++ ';' :: rest) := by
    rw [library.before_append hplain.colon]
    exact List.mem_append_right _ (by simp [before])
  rw [if_pos hmem, hcut, splitOn_text hrfid hlati hlongi]

/-- Only a plain line gives three fields. -/
theorem plain_of_location {data : Line} {f g : Fields} (hshows : Shows data f)
    (h : location data = .ok g) : f.Plain := by
  obtain ⟨⟨rest, -, rfl⟩, hrfid, hlati, -, hends⟩ := hshows
  rw [location_eq] at h
  split at h
  · next hmem =>
    have hcount : (before ';' (before ':' (f.text ++ ';' :: rest))).count ',' = 2 := by
      have hlength := library.length_splitOn ',' (before ';' (before ':' (f.text ++ ';' :: rest)))
      split at h
      · next hthree =>
        rw [hthree] at hlength
        exact (Nat.succ.inj hlength).symm
      · cases h
    -- a semicolon in the first two fields would leave one comma in front of it
    have hsemicolon : ';' ∉ f.text := by
      intro htext
      have hends' : ';' ∉ ',' :: f.longi := by simp [hends]
      have hsplit : f.text = (f.rfid ++ ',' :: f.lati) ++ ',' :: f.longi := by
        simp only [Fields.text, List.append_assoc, List.cons_append]
      have htwo : ';' ∈ f.rfid ++ ',' :: f.lati :=
        (List.mem_append.mp (hsplit ▸ htext)).resolve_right hends'
      rw [library.before_before, library.before_append_of_mem htext, hsplit,
        library.before_append_of_mem htwo] at hcount
      have hcut : (before ':' (before ';' (f.rfid ++ ',' :: f.lati))).Sublist (f.rfid ++ ',' :: f.lati) :=
        (library.before_sublist ':' _).trans (library.before_sublist ';' _)
      have hle := hcut.count_le ','
      rw [hcount, List.count_append, List.count_eq_zero_of_not_mem hrfid, List.count_cons_self,
        List.count_eq_zero_of_not_mem hlati] at hle
      omega
    -- and a colon would leave no semicolon
    refine ⟨?_, hsemicolon⟩
    intro htext
    rw [library.before_append_of_mem htext] at hmem
    exact hsemicolon ((library.before_sublist ':' _).subset hmem)
  · cases h

/-- The one exception of the cuts. -/
theorem location_error {data : Line} {f : Fields} (hshows : Shows data f) (hplain : ¬ f.Plain) :
    location data = .error .ValueError := by
  cases hlocation : location data with
  | ok g => exact absurd (plain_of_location hshows hlocation) hplain
  | error e =>
    obtain ⟨⟨rest, -, rfl⟩, -⟩ := hshows
    rw [location_eq] at hlocation
    split at hlocation
    · split at hlocation
      · cases hlocation
      · exact hlocation.symm
    · exact hlocation.symm

/-! ## The loop -/

/-- A line stops the server, and not a POST. -/
def Run.StoppedByLine (run : Run) : Prop := ∃ e, run.raised = some e ∧ e ≠ .RequestException

theorem not_stoppedByLine_none (output : List Output) : ¬ (Run.mk output none).StoppedByLine := by
  rintro ⟨e, he, -⟩
  cases he

theorem Run.andThen_stoppedByLine {first : Run} (h : first.raised = none) (next : Run) :
    (first.andThen next).StoppedByLine ↔ next.StoppedByLine := by
  simp only [Run.andThen, h, Run.StoppedByLine]

theorem Run.StoppedByLine.of_andThen {first next : Run} (h : (first.andThen next).StoppedByLine) :
    first.StoppedByLine ∨ next.StoppedByLine := by
  cases hraised : first.raised with
  | none => exact .inr ((Run.andThen_stoppedByLine hraised next).mp h)
  | some e =>
    simp only [Run.andThen, hraised] at h
    obtain ⟨e', he', hne⟩ := h
    exact .inl ⟨e', hraised.trans he', hne⟩

theorem Run.StoppedByLine.andThen {first : Run} (h : first.StoppedByLine) (next : Run) :
    (first.andThen next).StoppedByLine := by
  obtain ⟨e, he, hne⟩ := h
  exact ⟨e, by simp only [Run.andThen, he], hne⟩

theorem post_location_of_ok {turn : Turn} {f : Fields} (h : location turn.data = .ok f) :
    (post_location turn).raised = none ∨ (post_location turn).raised = some .RequestException := by
  rw [post_location, h]
  dsimp only
  split
  · exact .inr rfl
  · split
    · exact .inl rfl
    · exact .inl rfl

/-- One pass of the loop is stopped by its line exactly if the line passes the test and
its fields are not plain. -/
theorem serve_stoppedByLine_iff (turn : Turn) :
    (serve turn).StoppedByLine ↔ guard turn.data = .ok true ∧ ∃ f, Shows turn.data f ∧ ¬ f.Plain := by
  constructor
  · intro h
    rw [serve] at h
    split at h
    · exact absurd h (not_stoppedByLine_none _)
    · split at h
      · next e he =>
        obtain ⟨passed, hpassed⟩ := guard_ok turn.data
        rw [hpassed] at he
        cases he
      · next hguard =>
        rw [Run.andThen_stoppedByLine rfl] at h
        obtain ⟨f, hshows⟩ := shows_of_guard hguard
        refine ⟨hguard, f, hshows, fun hplain => ?_⟩
        obtain ⟨e, he, hne⟩ := h
        cases post_location_of_ok (location_of_plain hshows hplain) with
        | inl hnone =>
          rw [hnone] at he
          cases he
        | inr hrequest =>
          rw [hrequest] at he
          exact hne (Option.some.inj he).symm
      · exact absurd h (not_stoppedByLine_none _)
  · rintro ⟨hguard, f, hshows, hplain⟩
    have hdata : turn.data.length ≠ 0 := by
      obtain ⟨⟨rest, -, hdata⟩, -⟩ := hshows
      rw [hdata]
      exact Nat.succ_ne_zero _
    rw [serve, if_neg hdata, hguard]
    dsimp only
    rw [Run.andThen_stoppedByLine rfl, post_location, location_error hshows hplain]
    exact ⟨.ValueError, rfl, by decide⟩

/-- The server is stopped by one of the lines it reads. -/
theorem posting_stoppedByLine {turns : List Turn} (h : (posting turns).StoppedByLine) :
    ∃ turn ∈ turns, (serve turn).StoppedByLine := by
  induction turns with
  | nil => exact absurd h (not_stoppedByLine_none _)
  | cons turn turns ih =>
    cases Run.StoppedByLine.of_andThen h with
    | inl hfirst => exact ⟨turn, List.mem_cons_self, hfirst⟩
    | inr hrest =>
      obtain ⟨other, hmem, hstopped⟩ := ih hrest
      exact ⟨other, List.mem_cons_of_mem turn hmem, hstopped⟩

/-- A POST that is answered raises nothing. -/
theorem post_location_answered {turn : Turn} {f : Fields} (h : location turn.data = .ok f)
    (hanswer : ∀ payload, turn.answer payload ≠ none) : (post_location turn).raised = none := by
  rw [post_location, h]
  dsimp only
  split
  · next hnone => exact absurd hnone (hanswer _)
  · split
    · rfl
    · rfl

/-- Where every POST is answered, nothing but the line can end a pass. -/
theorem serve_answered {turn : Turn} (hanswer : ∀ payload, turn.answer payload ≠ none) :
    (serve turn).raised = none ∨ (serve turn).StoppedByLine := by
  cases hguard : guard turn.data with
  | error e =>
    obtain ⟨passed, hpassed⟩ := guard_ok turn.data
    rw [hpassed] at hguard
    cases hguard
  | ok passed =>
    cases passed with
    | false =>
      left
      rw [serve, hguard]
      split
      · rfl
      · rfl
    | true =>
      obtain ⟨f, hshows⟩ := shows_of_guard hguard
      by_cases hplain : f.Plain
      · left
        rw [serve, hguard]
        split
        · rfl
        · exact post_location_answered (location_of_plain hshows hplain) hanswer
      · exact .inr ((serve_stoppedByLine_iff turn).mpr ⟨hguard, f, hshows, hplain⟩)

theorem posting_stopped_of_mem {turns : List Turn} (hanswer : ∀ turn ∈ turns, ∀ payload, turn.answer payload ≠ none)
    {turn : Turn} (hmem : turn ∈ turns) (hstopped : (serve turn).StoppedByLine) :
    (posting turns).StoppedByLine := by
  induction turns with
  | nil => cases hmem
  | cons first turns ih =>
    rw [posting]
    cases serve_answered (hanswer first List.mem_cons_self) with
    | inr hfirst => exact hfirst.andThen _
    | inl hfirst =>
      rw [Run.andThen_stoppedByLine hfirst]
      obtain rfl | hrest := List.mem_cons.mp hmem
      · obtain ⟨e, he, -⟩ := hstopped
        rw [hfirst] at he
        cases he
      · exact ih (fun other hother => hanswer other (List.mem_cons_of_mem first hother)) hrest

/-- The three fields of a line that passes the test are plain. -/
def PlainLine (data : Line) : Prop := guard data = .ok true → ∃ f, Shows data f ∧ f.Plain

/-- Of the lines that come, those that pass the test have their three fields taken out,
and none stops the server, exactly if they are plain. -/
theorem lines_parsed_iff (lines : List Line) :
    ((∀ data ∈ lines, guard data = .ok true → ∃ f, Shows data f ∧ location data = .ok f) ↔
        ∀ data ∈ lines, PlainLine data) ∧
      ((∀ turns : List Turn, turns.map Turn.data = lines → ¬ (start_posting turns).StoppedByLine) ↔
        ∀ data ∈ lines, PlainLine data) := by
  refine ⟨?_, ?_, ?_⟩
  · refine forall₂_congr fun data _ => forall_congr' fun _ => exists_congr fun f => and_congr_right fun hshows => ?_
    exact ⟨plain_of_location hshows, location_of_plain hshows⟩
  · intro h data hmem hguard
    obtain ⟨f, hshows⟩ := shows_of_guard hguard
    by_contra hplain
    let answered (data : Line) : Turn := ⟨data, fun _ => some 200⟩
    have hstopped : (serve (answered data)).StoppedByLine :=
      (serve_stoppedByLine_iff _).mpr ⟨hguard, f, hshows, fun h => hplain ⟨f, hshows, h⟩⟩
    have hdata : (lines.map answered).map Turn.data = lines := by
      rw [List.map_map]
      exact List.map_id lines
    apply h (lines.map answered) hdata
    rw [start_posting, Run.andThen_stoppedByLine rfl]
    refine posting_stopped_of_mem ?_ (List.mem_map_of_mem hmem) hstopped
    intro turn hturn payload
    obtain ⟨line, -, rfl⟩ := List.mem_map.mp hturn
    exact Option.some_ne_none 200
  · rintro h turns rfl hstopped
    rw [start_posting, Run.andThen_stoppedByLine rfl] at hstopped
    obtain ⟨turn, hmem, hturn⟩ := posting_stoppedByLine hstopped
    obtain ⟨hguard, f, hshows, hplain⟩ := (serve_stoppedByLine_iff turn).mp hturn
    obtain ⟨g, hg, hgplain⟩ := h turn.data (List.mem_map_of_mem hmem) hguard
    exact hplain (plain_of_location hshows (location_of_plain hg hgplain))

/-- A colon in the first field: the line passes, and stops the server. -/
theorem colon_stops_server :
    guard "L:a:b,1,2;".toList = .ok true ∧ Shows "L:a:b,1,2;".toList ⟨"a:b".toList, ['1'], ['2']⟩ ∧
      location "L:a:b,1,2;".toList = .error .ValueError ∧
      (start_posting [⟨"L:a:b,1,2;".toList, fun _ => some 200⟩]).raised = some .ValueError := by
  exact ⟨by decide, ⟨⟨[], by decide, by decide⟩, by decide, by decide, by decide, by decide⟩, by decide, by decide⟩

end concretid.raspberry

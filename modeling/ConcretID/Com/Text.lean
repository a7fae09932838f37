import ConcretID.Com.Acks
import ConcretID.Com.Retries

open concretid.memory
open concretid.ems (Uid cstring linkLocal)

namespace concretid.com

/-- What a call writes to the UART. -/
def Event.printed? : Event → Option Out
  | .uart0 out => some out
  | _ => none

/-- The text that a call executes as a command. -/
def Event.executed? : Event → Option (List UInt8)
  | .executeCmd cmd => some cmd
  | _ => none

/-- The package arrives as it was sent; any bytes may lie behind it. -/
structure Datagram.Carries (m : Datagram) (package : List UInt8) : Prop where
  len : m.len = package.length
  content : load m.data 0 m.len = package

/-! ## Strings in memory -/

/-- A string in memory is read up to its NUL. -/
theorem stringFrom_of_load {d : Nat → UInt8} {bytes : List UInt8} {offset fuel : Nat}
    (hload : load d offset (bytes.length + 1) = bytes ++ [0]) (hbytes : ∀ c ∈ bytes, c ≠ 0)
    (hfuel : bytes.length < fuel) : stringFrom d offset fuel = bytes := by
  induction bytes generalizing offset fuel with
  | nil =>
    obtain ⟨n, rfl⟩ := Nat.exists_eq_succ_of_ne_zero (Nat.ne_of_gt hfuel)
    have hnul : d offset = 0 := by simpa [load] using hload
    rw [stringFrom, if_pos hnul]
  | cons c bytes ih =>
    obtain ⟨n, rfl⟩ := Nat.exists_eq_succ_of_ne_zero (Nat.ne_of_gt (Nat.zero_lt_of_lt hfuel))
    obtain ⟨hfirst, hrest⟩ := load_eq_append (a := [c]) (b := bytes ++ [0]) hload
    have hc : d offset = c := by simpa [load] using hfirst
    have hne : d offset ≠ 0 := by
      rw [hc]
      exact hbytes c List.mem_cons_self
    rw [List.length_append, List.length_singleton, List.length_singleton] at hrest
    rw [stringFrom, if_neg hne, hc, ih hrest (fun c' h => hbytes c' (List.mem_cons_of_mem c h))
      (Nat.lt_of_succ_lt_succ hfuel)]

/-- A string is at least as long as the bytes without a NUL it begins with. -/
theorem stringFrom_of_ne {d : Nat → UInt8} {n offset fuel : Nat}
    (hbytes : ∀ c ∈ load d offset n, c ≠ 0) (hfuel : n ≤ fuel) :
    n ≤ (stringFrom d offset fuel).length := by
  induction n generalizing offset fuel with
  | zero => exact Nat.zero_le _
  | succ n ih =>
    obtain ⟨fuel, rfl⟩ := Nat.exists_eq_succ_of_ne_zero (Nat.ne_of_gt (Nat.zero_lt_of_lt hfuel))
    have hsplit : load d offset (n + 1) = d offset :: load d (offset + 1) n := by
      rw [Nat.add_comm n 1, load_append]
      simp [load]
    rw [hsplit] at hbytes
    rw [stringFrom, if_neg (hbytes _ List.mem_cons_self), List.length_cons]
    exact Nat.succ_le_succ (ih (fun c h => hbytes c (List.mem_cons_of_mem _ h))
      (Nat.le_of_succ_le_succ hfuel))

/-- A command with a destination and a text lies in a region `executeCmd` is called on. -/
structure Node.Typed (s : Node) (r : Region) (offset : Nat) (letter : UInt8)
    (name text : List UInt8) : Prop where
  region : r = .cmd ∨ r = .uip_appdata
  content : load (s.memory r) offset (name.length + text.length + 3) =
    [letter] ++ (name ++ ([0x20] ++ (text ++ [0])))
  name_plain : ∀ c ∈ name, c ≠ 0 ∧ c ≠ 0x20
  text_plain : ∀ c ∈ text, c ≠ 0
  room : name.length + text.length + 3 ≤ XDATA_SIZE

namespace Node

theorem Typed.letter_eq {s : Node} {r : Region} {offset : Nat} {letter : UInt8}
    {name text : List UInt8} (h : s.Typed r offset letter name text) :
    s.memory r offset = letter := by
  have hfirst := (load_eq_append h.content).1
  simpa [load] using hfirst

/-- The parts of the command behind its letter. -/
theorem Typed.parts {s : Node} {r : Region} {offset : Nat} {letter : UInt8}
    {name text : List UInt8} (h : s.Typed r offset letter name text) :
    load (s.memory r) (offset + 1) (name ++ [0x20] ++ text ++ [0]).length =
        name ++ [0x20] ++ text ++ [0] ∧
      s.memory r (offset + 1 + name.length) = 0x20 ∧
      load (s.memory r) (offset + 1 + name.length + 1) (text.length + 1) = text ++ [0] := by
  obtain ⟨-, hrest⟩ := load_eq_append h.content
  obtain ⟨-, hspace⟩ := load_eq_append hrest
  obtain ⟨hchar, htext⟩ := load_eq_append hspace
  refine ⟨?_, ?_, ?_⟩
  · simpa only [List.append_assoc, List.length_singleton] using hrest
  · simpa [load] using hchar
  · simpa using htext

theorem Typed.wordAt_eq {s : Node} {r : Region} {offset : Nat} {letter : UInt8}
    {name text : List UInt8} (h : s.Typed r offset letter name text) :
    wordAt (s.memory r) (offset + 1) = name := by
  have hload := h.parts.1
  rw [List.length_append, List.length_singleton] at hload
  have hbytes : ∀ c ∈ name ++ [0x20] ++ text, c ≠ 0 := by
    intro c hc
    simp only [List.mem_append, List.mem_singleton] at hc
    obtain (hname | rfl) | htext := hc
    · exact (h.name_plain c hname).1
    · decide
    · exact h.text_plain c htext
  have hroom : (name ++ [0x20] ++ text).length < XDATA_SIZE := by
    have hsize := h.room
    simp only [List.length_append, List.length_singleton]
    omega
  rw [wordAt, stringAt, stringFrom_of_load hload hbytes hroom, List.append_assoc,
    List.takeWhile_append_of_pos (by simpa using fun c hc => (h.name_plain c hc).2)]
  simp

/-- The end of the name is marked, and the text behind it stays. -/
theorem Typed.text_eq {s : Node} {r : Region} {offset : Nat} {letter : UInt8}
    {name text : List UInt8} (h : s.Typed r offset letter name text) :
    stringAt (store (s.memory r) (offset + 1 + name.length) [0]) (offset + 1 + name.length + 1) =
        text ∧
      ∀ n ≤ text.length, load (store (s.memory r) (offset + 1 + name.length) [0])
        (offset + 1 + name.length + 1) n = text.take n := by
  have hload := h.parts.2.2
  have hkept : ∀ n, load (store (s.memory r) (offset + 1 + name.length) [0])
      (offset + 1 + name.length + 1) n =
      load (s.memory r) (offset + 1 + name.length + 1) n :=
    fun n => load_store_of_disjoint _ _ (.inr (Nat.le_refl _))
  refine ⟨?_, fun n hn => ?_⟩
  · apply stringFrom_of_load ((hkept _).trans hload) h.text_plain
    have hsize := h.room
    omega
  · obtain ⟨htext, -⟩ := load_eq_append hload
    rw [hkept, ← load_take _ _ hn, htext]

/-! ## The sender -/

/-- What the package of a command holds behind the id. -/
def textBody (t : PackageType) (address : Uid) (text : List UInt8) : List UInt8 :=
  [t.code] ++ (address.toList ++ text)

theorem initPackage_buf (s : Node) {t : PackageType}
    (ht : t = .IDENTIFIED_PACKAGE_M ∨ t = .COMMAND_M) :
    (s.initPackage t).buf = store s.buf 0 (s.nextRid.bytes ++ [t.code] ++ s.myIp.toList) ∧
      (s.nextRid.bytes ++ [t.code] ++ s.myIp.toList).length = packOffset t := by
  have hlength : (s.nextRid.bytes ++ [t.code] ++ s.myIp.toList).length =
      PACKAGE_HEAD + UID_SIZE := by
    rw [List.length_append, List.Vector.toList_length]
    rfl
  rw [hlength]
  obtain rfl | rfl := ht <;> exact ⟨rfl, rfl⟩

/-- The package with a text in `buf`, cut anywhere behind it. -/
theorem initPackage_text (s : Node) {t : PackageType}
    (ht : t = .IDENTIFIED_PACKAGE_M ∨ t = .COMMAND_M) {text rest : List UInt8} {len : Nat}
    (hlen : len ≤ packOffset t + text.length) :
    load ((s.initPackage t).write .buf (packOffset t) (text ++ rest)).buf 0 len =
      (s.nextRid.bytes ++ textBody t s.myIp text).take len := by
  obtain ⟨hbuf, hhead⟩ := initPackage_buf s ht
  have hall := load_store_store s.buf (s.nextRid.bytes ++ [t.code] ++ s.myIp.toList) (text ++ rest)
  rw [← hbuf, hhead] at hall
  have hroom : len ≤ packOffset t + (text ++ rest).length := by
    rw [List.length_append]
    omega
  rw [← load_take _ _ hroom]
  apply (congrArg (List.take len) hall).trans
  have hsplit : s.nextRid.bytes ++ [t.code] ++ s.myIp.toList ++ (text ++ rest) =
      s.nextRid.bytes ++ textBody t s.myIp text ++ rest := by
    simp only [textBody, List.append_assoc]
  rw [hsplit, List.take_append_of_le_length]
  have hsize : (s.nextRid.bytes ++ textBody t s.myIp text).length = packOffset t + text.length := by
    rw [← hhead, ← List.length_append]
    simp only [textBody, List.append_assoc]
  rwa [hsize]

/-- A command with a text queues one package: of the head, the address and the
text, as many bytes as `sendText` counts. -/
theorem sendText_queues {s : Node} {r : Region} {offset : Nat} {letter : UInt8}
    {name text : List UInt8} (htyped : s.Typed r offset letter name text) {i : Fin SENDOUT_SIZE}
    (hfree : s.newSendBuf = some i) {t : PackageType}
    (ht : t = .IDENTIFIED_PACKAGE_M ∨ t = .COMMAND_M) {room counted : Nat}
    (hroom : counted + room = BUF_SIZE) (hcounted : counted ≤ packOffset t) :
    ∃ (s' : Node) (sb : SendBuf),
      s.sendText r (offset + 1) t room counted = (s'.setSlot i sb).CheckSendOut1 i ∧
      Acts s s' [.initPackage t s.nextRid] ∧
      sb.timeLeft ≠ 0 ∧ sb.len = counted + min text.length room ∧
      load sb.data 0 sb.len =
        (s.nextRid.bytes ++ textBody t s.myIp (text.take room)).take sb.len := by
  obtain ⟨-, hspace, -⟩ := htyped.parts
  obtain ⟨htext, hcut⟩ := htyped.text_eq
  have hflooded : t.flooded = false := by obtain rfl | rfl := ht <;> rfl
  have hmemory : ((s.write r (offset + 1 + name.length) [0]).initPackage t).memory r =
      store (s.memory r) (offset + 1 + name.length) [0] := by
    obtain rfl | rfl := htyped.region <;> rfl
  have hdraw : (s.write r (offset + 1 + name.length) [0]).nextRid = s.nextRid ∧
      (s.write r (offset + 1 + name.length) [0]).myIp = s.myIp := by
    obtain rfl | rfl := htyped.region <;> exact ⟨rfl, rfl⟩
  have hsend : ∀ (bytes rest : List UInt8) (len : Nat), bytes = text.take room →
      len = counted + min text.length room → len ≤ packOffset t + bytes.length →
      ∃ (s' : Node) (sb : SendBuf),
        ((((s.write r (offset + 1 + name.length) [0]).initPackage t).write .buf (packOffset t)
          (bytes ++ rest)).safeSendByName .buf len name).1 = (s'.setSlot i sb).CheckSendOut1 i ∧
        Acts s s' [.initPackage t s.nextRid] ∧
        sb.timeLeft ≠ 0 ∧ sb.len = counted + min text.length room ∧
        load sb.data 0 sb.len =
          (s.nextRid.bytes ++ textBody t s.myIp (text.take room)).take sb.len := by
    rintro bytes rest len rfl hlen hshort
    have hslots : (((s.write r (offset + 1 + name.length) [0]).initPackage t).write .buf
        (packOffset t) (text.take room ++ rest)).newSendBuf = some i := by
      obtain rfl | rfl := htyped.region <;> exact hfree
    obtain ⟨key, timeLeft, htime, heq⟩ := safeSendByName_eq hslots .buf len name
    have hacts := ((acts_write s r (offset + 1 + name.length) [0]).trans
      (acts_initPackage _ hflooded)).trans (acts_write _ .buf (packOffset t) (text.take room ++ rest))
    rw [hdraw.1] at hacts
    refine ⟨_, _, heq, hacts, filled_used htime, hlen, ?_⟩
    dsimp only
    rw [load_store_load]
    apply (initPackage_text _ ht hshort).trans
    rw [hdraw.1, hdraw.2]
  rw [sendText]
  dsimp only
  rw [htyped.wordAt_eq, if_neg (by rw [hspace]; decide), hmemory, htext]
  split
  · rename_i hfits
    have hwhole : text.take room = text := List.take_of_length_le (Nat.le_of_lt hfits)
    refine hsend text [0] _ hwhole.symm ?_ ?_
    · rw [Nat.min_eq_left (Nat.le_of_lt hfits)]
    · omega
  · rename_i hlong
    have hmin : min text.length room = room := Nat.min_eq_right (Nat.not_lt.mp hlong)
    have hcopied := hsend (text.take room) [] BUF_SIZE rfl (by rw [hmin, hroom])
      (by rw [List.length_take, Nat.min_comm, hmin]; omega)
    rw [List.append_nil] at hcopied
    rw [hcut room (Nat.not_lt.mp hlong)]
    exact hcopied

/-- The two commands with a text: the letter, the package type, the bytes of
the text that are copied and the bytes in front of it that are counted. -/
inductive TextCommand : UInt8 → PackageType → Nat → Nat → Prop where
  | send : TextCommand 0x53 .IDENTIFIED_PACKAGE_M (BUF_SIZE - PACKAGE_HEAD) PACKAGE_HEAD
  | command : TextCommand 0x43 .COMMAND_M (BUF_SIZE - packOffset .COMMAND_M) (packOffset .COMMAND_M)

theorem TextCommand.executeCmd_eq {letter : UInt8} {t : PackageType} {room counted : Nat}
    (h : TextCommand letter t room counted) {s : Node} {r : Region} {offset : Nat}
    (hletter : s.memory r offset = letter) :
    s.executeCmd r offset =
      (s.emit (.executeCmd (stringAt (s.memory r) offset))).sendText r (offset + 1) t room counted := by
  cases h with
  | send =>
    rw [executeCmd, hletter]
    rfl
  | command =>
    rw [executeCmd, hletter]
    rfl

/-- What goes out of the slot that holds the package of a text: a package of as
many bytes as have been counted, with the address and the text behind the type. -/
theorem text_sent {s s' : Node} {r : Region} {offset : Nat} {letter : UInt8}
    {name text : List UInt8} (htyped : s.Typed r offset letter name text) {t : PackageType}
    {room counted : Nat} (hcommand : TextCommand letter t room counted) {i : Fin SENDOUT_SIZE}
    (hfree : s.newSendBuf = some i) (hwaits : Waits i (s.executeCmd r offset) s')
    {package : List UInt8} {ip : Uid}
    (hsent : .SendPackage (.sendOut i) package ip ∈ s.since s') :
    package.length = counted + min text.length room ∧
      package.drop RID_SIZE = (textBody t s.myIp (text.take room)).take (package.length - RID_SIZE) := by
  obtain ⟨ht, hroom, hlow, hhigh⟩ : (t = .IDENTIFIED_PACKAGE_M ∨ t = .COMMAND_M) ∧
      counted + room = BUF_SIZE ∧ PACKAGE_HEAD ≤ counted ∧ counted ≤ packOffset t := by
    cases hcommand with
    | send => exact ⟨.inl rfl, by decide⟩
    | command => exact ⟨.inr rfl, by decide⟩
  have hcalled : (s.emit (.executeCmd (stringAt (s.memory r) offset))).Typed r offset letter name text := by
    obtain rfl | rfl := htyped.region
    · exact ⟨.inl rfl, htyped.content, htyped.name_plain, htyped.text_plain, htyped.room⟩
    · exact ⟨.inr rfl, htyped.content, htyped.name_plain, htyped.text_plain, htyped.room⟩
  obtain ⟨filled, sb, heq, hfilled, hused, hlen, hdata⟩ :=
    sendText_queues hcalled hfree ht hroom hhigh
  rw [hcommand.executeCmd_eq htyped.letter_eq, heq] at hwaits
  obtain ⟨first, hfirst⟩ := holds_CheckSendOut1 (filled.setSlot i sb) i
  obtain ⟨new, hholds⟩ := Holds.exists_trans ⟨first, hfirst⟩
    (hwaits.holds (hfirst.used (by rwa [setSlot_self])))
  have hacts := ((Acts.emit s (e := .executeCmd (stringAt (s.memory r) offset)) rfl rfl).trans
    hfilled).trans ((acts_setSlot filled i sb).trans hholds.acts)
  rw [hacts.since_eq] at hsent
  have hmem : .SendPackage (.sendOut i) package ip ∈ new := by simpa using hsent
  have hshort : sb.len ≤ BUF_SIZE := by omega
  have hlong : PACKAGE_HEAD ≤ sb.len := by omega
  have hletter : sb.data RID_SIZE = t.code := by
    have hat := congrArg (·[RID_SIZE]?) hdata
    rw [load_getElem?, if_pos (Nat.lt_of_succ_le hlong), Nat.zero_add,
      List.getElem?_take_of_lt (Nat.lt_of_succ_le hlong)] at hat
    exact Option.some.inj hat
  have hother : t.code ≠ PackageType.MESH_M.code := by obtain rfl | rfl := ht <;> decide
  have htail := hholds.sends (by rwa [setSlot_self, hletter]) package ip hmem
  rw [setSlot_self, Nat.min_eq_left (le_trans hshort (by decide))] at htail
  have hsize : package.length = sb.len := by
    have hlength := congrArg List.length htail
    rw [List.length_tail, load_length] at hlength
    simp only [PACKAGE_HEAD, RID_SIZE] at hlong
    omega
  have hbody := congrArg (List.drop RID_SIZE) hdata
  rw [load_drop, Nat.zero_add, List.drop_take, List.drop_left' (by rfl)] at hbody
  refine ⟨hsize.trans hlen, ?_⟩
  have hdrop : package.drop RID_SIZE = package.tail.drop (RID_SIZE - 1) := by
    rw [← List.drop_one, List.drop_drop]
    rfl
  rw [hsize, hdrop, htail, load_drop, Nat.sub_sub]
  exact hbody

/-! ## The receiver -/

/-- Calls among which nothing is printed and no command executed. -/
def Quiet (s s' : Node) : Prop := ∃ new, Acts s s' new ∧ ∀ e ∈ new, e.delivers = false

theorem Quiet.trans {s s' s'' : Node} (h : Quiet s s') (h' : Quiet s' s'') : Quiet s s'' := by
  obtain ⟨a, ha, hquiet⟩ := h
  obtain ⟨b, hb, hquiet'⟩ := h'
  exact ⟨a ++ b, ha.trans hb, fun e he => (List.mem_append.mp he).elim (hquiet e) (hquiet' e)⟩

theorem Quiet.of_acts {s s' : Node} (h : Acts s s' []) : Quiet s s' := ⟨[], h, by simp⟩

theorem Quiet.refl (s : Node) : Quiet s s := .of_acts (.refl s)

theorem quiet_share (s : Node) {t : PackageType} {body : List UInt8} (ht : t.flooded = true)
    (hbody : PACKAGE_HEAD + body.length ≤ UIP_BUFSIZE) : Quiet s (s.share t body) :=
  ⟨_, acts_share s ht hbody, by simp [sharing, Event.delivers]⟩

theorem quiet_sendPackageByTable (s : Node) (r : Region) (len : Nat) (ipt : Fin IPTABLE_SIZE) :
    Quiet s (s.sendPackageByTable r len ipt) := by
  obtain ⟨s', r', len', link, heq, hacts, -⟩ := sendPackageByTable_inv s r len ipt
  rw [heq]
  exact ⟨_, hacts.trans (acts_SendPackage s' r' len' link), by simp [Event.delivers]⟩

theorem quiet_sendAck (s : Node) : Quiet s s.sendAck := by
  have hmade : Quiet s s.acking := ⟨_, acts_acking s, by simp [Event.delivers]⟩
  rw [sendAck_eq]
  split
  · exact hmade.trans (quiet_sendPackageByTable _ _ _ _)
  · exact hmade

theorem quiet_solve (s : Node) (i : Fin SENDOUT_SIZE) : Quiet s (s.solve i) := by
  rw [solve]
  dsimp only
  split
  · split
    · exact (Quiet.of_acts (acts_setSlot _ _ _)).trans (quiet_sendPackageByTable _ _ _ _)
    · rw [sendNameRequest_eq]
      exact quiet_share s rfl (by rw [ems.strncpy_length]; decide)
  · exact .refl s

theorem quiet_transmit (s : Node) (i : Fin SENDOUT_SIZE) : Quiet s (s.transmit i) := by
  rw [transmit]
  dsimp only
  split
  · split
    · exact (Quiet.of_acts (acts_setSlot _ _ _)).trans (quiet_sendPackageByTable _ _ _ _)
    · rw [sendIpRequest_eq]
      exact quiet_share s rfl (by rw [List.Vector.toList_length]; decide)
  · exact .refl s

theorem quiet_safeSendByName (s : Node) (r : Region) (len : Nat) (name : List UInt8) :
    Quiet s (s.safeSendByName r len name).1 := by
  rw [safeSendByName]
  split
  · exact (Quiet.of_acts (acts_setSlot _ _ _)).trans ((quiet_solve _ _).trans (quiet_transmit _ _))
  · exact .refl s

theorem quiet_sendText (s : Node) (r : Region) (cmd : Nat) {t : PackageType}
    (ht : t.flooded = false) (room counted : Nat) : Quiet s (s.sendText r cmd t room counted) := by
  rw [sendText]
  dsimp only
  split
  · exact .refl s
  · have hended := Quiet.of_acts (acts_write s r (cmd + (wordAt (s.memory r) cmd).length) [0])
    refine hended.trans (Quiet.trans ⟨_, acts_initPackage _ ht, by simp [Event.delivers]⟩ ?_)
    split
    · exact (Quiet.of_acts (acts_write _ _ _ _)).trans (quiet_safeSendByName _ _ _ _)
    · exact (Quiet.of_acts (acts_write _ _ _ _)).trans (quiet_safeSendByName _ _ _ _)

theorem executed?_of_quiet {e : Event} (h : e.delivers = false) : e.executed? = none := by
  cases e with
  | executeCmd => cases h
  | _ => rfl

theorem printed?_of_quiet {e : Event} (h : e.delivers = false) : e.printed? = none := by
  cases e with
  | uart0 => cases h
  | _ => rfl

/-- `executeCmd` does not call itself. -/
theorem acts_executeCmd (s : Node) (r : Region) (offset : Nat) :
    ∃ new, Acts s (s.executeCmd r offset) (.executeCmd (stringAt (s.memory r) offset) :: new) ∧
      ∀ e ∈ new, e.executed? = none := by
  have hcall := Acts.emit s (e := .executeCmd (stringAt (s.memory r) offset)) rfl rfl
  suffices hrest : ∃ new, Acts (s.emit (.executeCmd (stringAt (s.memory r) offset)))
      (s.executeCmd r offset) new ∧ ∀ e ∈ new, e.executed? = none by
    obtain ⟨new, hacts, hnew⟩ := hrest
    exact ⟨new, hcall.trans hacts, hnew⟩
  have hquiet : ∀ {s s' : Node}, Quiet s s' → ∃ new, Acts s s' new ∧ ∀ e ∈ new, e.executed? = none := by
    rintro s s' ⟨new, hacts, hnew⟩
    exact ⟨new, hacts, fun e he => executed?_of_quiet (hnew e he)⟩
  rw [executeCmd]
  dsimp only
  split
  · exact ⟨[], .of_eq rfl rfl rfl, by simp⟩
  · exact ⟨_, (Acts.emit _ rfl rfl).trans (Acts.emit _ rfl rfl), by simp [Event.executed?]⟩
  · exact hquiet (quiet_sendText _ _ _ (t := .IDENTIFIED_PACKAGE_M) rfl _ _)
  · rw [discoverCmd_eq]
    exact hquiet (quiet_share _ rfl (depthOf_length _))
  · refine hquiet (List.foldlRecOn _ _ (motive := Quiet _) (.refl _) ?_)
    intro s' h i _
    exact h.trans ⟨_, Acts.emit s' rfl rfl, by simp [Event.delivers]⟩
  · rw [blockCmd]
    split
    · exact ⟨[.uart0 (.text "Done")], ⟨rfl, rfl, rfl, .other rfl .nil⟩, by simp [Event.executed?]⟩
    · exact ⟨_, Acts.emit _ rfl rfl, by simp [Event.executed?]⟩
  · exact hquiet (quiet_sendText _ _ _ (t := .COMMAND_M) rfl _ _)
  · exact ⟨[], .refl _, by simp⟩

/-- The end of both cases: the source is registered and sent an answer. -/
theorem quiet_answered (s : Node) :
    Quiet s (s.registerIp (ems.uidAt s.uip_appdata PACKAGE_HEAD) s.srcipaddr none).sendAck := by
  have hlearnt : Acts s (s.registerIp (ems.uidAt s.uip_appdata PACKAGE_HEAD) s.srcipaddr none) [] :=
    .of_eq rfl rfl rfl
  exact (Quiet.of_acts hlearnt).trans (quiet_sendAck _)

/-- A new identified package is printed and answered. -/
theorem receive_identified {s : Node} {m : Datagram} (haccepts : s.Accepts m)
    (hnew : s.rids.existsRid m.rid = 0) (htype : m.type = some .IDENTIFIED_PACKAGE_M) :
    ∃ last, Acts s (s.receive m)
      (.registerRid m.rid :: (identifiedLine m.data (m.len - PACKAGE_HEAD) ++ last)) ∧
      ∀ e ∈ last, e.delivers = false := by
  have hprint := acts_printIdentified (s.seen m) (m.len - PACKAGE_HEAD)
  obtain ⟨last, hlast, hquiet⟩ := quiet_answered ((s.seen m).printIdentified (m.len - PACKAGE_HEAD))
  refine ⟨last, ?_, hquiet⟩
  rw [haccepts.receive_eq, hnew, htype]
  exact (acts_seen s m).trans (hprint.trans hlast)

/-- A new command is executed, as the text its body begins with, and answered. -/
theorem receive_command {s : Node} {m : Datagram} (haccepts : s.Accepts m)
    (hnew : s.rids.existsRid m.rid = 0) (htype : m.type = some .COMMAND_M) :
    ∃ last, Acts s (s.receive m)
      (.registerRid m.rid :: .executeCmd (stringAt m.data PACKAGE_HEAD) :: last) ∧
      ∀ e ∈ last, e.executed? = none := by
  obtain ⟨first, hfirst, hnone⟩ := acts_executeCmd (s.seen m) .uip_appdata PACKAGE_HEAD
  obtain ⟨last, hlast, hquiet⟩ := quiet_answered ((s.seen m).executeCmd .uip_appdata PACKAGE_HEAD)
  refine ⟨first ++ last, ?_, fun e he => ?_⟩
  · rw [haccepts.receive_eq, hnew, htype]
    exact (acts_seen s m).trans (hfirst.trans hlast)
  · exact (List.mem_append.mp he).elim (hnone e) fun hmem => executed?_of_quiet (hquiet e hmem)

/-- What arrives at a neighbour. -/
theorem text_carried {s s' : Node} {r : Region} {offset : Nat} {letter : UInt8}
    {name text : List UInt8} (htyped : s.Typed r offset letter name text) {t : PackageType}
    {room counted : Nat} (hcommand : TextCommand letter t room counted) {i : Fin SENDOUT_SIZE}
    (hfree : s.newSendBuf = some i) (hwaits : Waits i (s.executeCmd r offset) s')
    {package : List UInt8} {ip : Uid}
    (hsent : .SendPackage (.sendOut i) package ip ∈ s.since s') {m : Datagram}
    (hm : m.Carries package) :
    m.len = counted + min text.length room ∧ m.type = some t ∧
      load m.data PACKAGE_HEAD (m.len - PACKAGE_HEAD) =
        (s.myIp.toList ++ text.take room).take (m.len - PACKAGE_HEAD) := by
  obtain ⟨hlen, hbody⟩ := text_sent htyped hcommand hfree hwaits hsent
  have hlow : PACKAGE_HEAD ≤ counted := by cases hcommand <;> decide
  have hlong : RID_SIZE + 1 ≤ m.len := by
    rw [hm.len, hlen]
    exact le_trans hlow (Nat.le_add_right _ _)
  obtain ⟨n, hn⟩ := Nat.exists_eq_add_of_le hlong
  rw [← hm.len, ← hm.content, load_drop, Nat.zero_add] at hbody
  have hcount : m.len - RID_SIZE = 1 + n := by omega
  rw [hcount, load_append, textBody, Nat.add_comm 1 n, List.singleton_append, List.take_succ_cons]
    at hbody
  obtain ⟨hletter, hrest⟩ := List.cons.inj hbody
  refine ⟨hm.len.trans hlen, ?_, ?_⟩
  · rw [Datagram.type, show m.letter = t.code from hletter, PackageType.ofCode_code]
  · rw [show m.len - PACKAGE_HEAD = n by simp only [PACKAGE_HEAD]; omega]
    exact hrest

/-- The text as far as a package has room for it. -/
def fitting (text : List UInt8) : List UInt8 :=
  text.take (BUF_SIZE - packOffset .IDENTIFIED_PACKAGE_M)

/-- A text that is cut fills the package. -/
theorem fitting_length {text : List UInt8} (hcut : BUF_SIZE - PACKAGE_HEAD ≤ text.length) :
    (fitting text).length = BUF_SIZE - packOffset .IDENTIFIED_PACKAGE_M :=
  List.length_take_of_le (le_trans (by decide) hcut)

/-- A text is delivered: the line that is printed is the address and the text,
and what is printed has been read from the package. -/
structure Prints (s : Node) (m : Datagram) (address : Uid) (text : List UInt8) : Prop where
  line : (s.since (s.receive m)).filterMap Event.printed? =
    [.text "New Package from ", .hex address.toList, .text ":", .bytes text, .newline]
  inside : PACKAGE_HEAD + UID_SIZE + text.length ≤ m.len

/-- What is printed for a new identified package from a neighbour that is not blocked. -/
theorem printed_identified {s : Node} {m : Datagram} (haccepts : s.Accepts m)
    (hnew : s.rids.existsRid m.rid = 0) (htype : m.type = some .IDENTIFIED_PACKAGE_M) :
    (s.since (s.receive m)).filterMap Event.printed? =
      [.text "New Package from ", .hex (load m.data PACKAGE_HEAD UID_SIZE), .text ":",
        .bytes (cstring (load m.data (PACKAGE_HEAD + UID_SIZE) (m.len - PACKAGE_HEAD))),
        .newline] := by
  obtain ⟨last, hacts, hquiet⟩ := receive_identified haccepts hnew htype
  have hlast : last.filterMap Event.printed? = [] :=
    List.filterMap_eq_nil_iff.mpr fun e he => printed?_of_quiet (hquiet e he)
  rw [hacts.since_eq, List.filterMap_cons_none rfl, List.filterMap_append, hlast]
  rfl

/-- Nothing comes of a package from a blocked source. -/
theorem since_blocked {s : Node} {m : Datagram} (h : s.blocked = m.src) :
    s.since (s.receive m) = [] := by
  have hacts : Acts s (s.arrived m) [] := .of_eq rfl rfl rfl
  rw [receive_eq, if_pos h, hacts.since_eq]

theorem accepts_new {s : Node} {m : Datagram} (hsrc : s.blocked ≠ m.src)
    (hlen : PACKAGE_HEAD ≤ m.len) (hnew : s.rids.existsRid m.rid = 0) : s.Accepts m := by
  refine ⟨hsrc, hlen, ?_, fun hknown => ?_⟩
  · rw [hnew]
    decide
  · rw [hnew] at hknown
    cases hknown

theorem cstring_append {a : List UInt8} (ha : ∀ c ∈ a, c ≠ 0) (b : List UInt8) :
    cstring (a ++ b) = a ++ cstring b :=
  List.takeWhile_append_of_pos (by simpa using ha)

/-- A text is delivered exactly if it is so long that it is cut by `BUF_SIZE`
and the receive buffer happens to hold a NUL behind the package: the length of
a shorter text does not count the address in front of it, and the bytes behind
the package are printed as if it did. -/
theorem text_printed_iff {s s' : Node} {r : Region} {offset : Nat} {name text : List UInt8}
    (htyped : s.Typed r offset 0x53 name text) {i : Fin SENDOUT_SIZE}
    (hfree : s.newSendBuf = some i) (hwaits : Waits i (s.executeCmd r offset) s')
    {package : List UInt8} {ip : Uid}
    (hsent : .SendPackage (.sendOut i) package ip ∈ s.since s') {receiver : Node} {m : Datagram}
    (hm : m.Carries package) (hnew : receiver.rids.existsRid m.rid = 0) :
    receiver.Prints m s.myIp (fitting text) ↔
      receiver.blocked ≠ m.src ∧ BUF_SIZE - PACKAGE_HEAD ≤ text.length ∧ m.data m.len = 0 := by
  obtain ⟨hlen, htype, hbody⟩ := text_carried htyped .send hfree hwaits hsent hm
  have haccepts : receiver.blocked ≠ m.src → receiver.Accepts m := fun hsrc =>
    accepts_new hsrc (by rw [hlen]; exact Nat.le_add_right _ _) hnew
  have hlong : BUF_SIZE - PACKAGE_HEAD ≤ text.length →
      load m.data PACKAGE_HEAD UID_SIZE = s.myIp.toList ∧
      cstring (load m.data (PACKAGE_HEAD + UID_SIZE) (m.len - PACKAGE_HEAD)) =
        fitting text ++ cstring (load m.data m.len UID_SIZE) := by
    intro hlong
    have hfull : m.len = BUF_SIZE := by
      rw [hlen, Nat.min_eq_right hlong]
      rfl
    have hcut : (s.myIp.toList ++ text.take (BUF_SIZE - PACKAGE_HEAD)).take (m.len - PACKAGE_HEAD) =
        s.myIp.toList ++ fitting text := by
      rw [hfull, List.take_append, List.Vector.toList_length, List.take_take,
        List.take_of_length_le (by rw [List.Vector.toList_length]; decide)]
      rfl
    rw [hcut] at hbody
    obtain ⟨haddress, htext⟩ := load_eq_append hbody
    rw [List.Vector.toList_length] at haddress htext
    have hsize := fitting_length hlong
    have hsplit := load_append m.data (PACKAGE_HEAD + UID_SIZE)
      (BUF_SIZE - packOffset .IDENTIFIED_PACKAGE_M) UID_SIZE
    rw [← hsize, htext, hsize] at hsplit
    refine ⟨haddress, ?_⟩
    rw [hfull]
    refine (congrArg cstring hsplit).trans (cstring_append (fun c hc => ?_) _)
    exact htyped.text_plain c (List.mem_of_mem_take hc)
  have hnul : cstring (load m.data m.len UID_SIZE) = [] ↔ m.data m.len = 0 := by
    by_cases hzero : m.data m.len = 0
    · simp [cstring, load, List.range_succ_eq_map, hzero]
    · simp [cstring, load, List.range_succ_eq_map, hzero]
  constructor
  · rintro ⟨hline, hinside⟩
    have hsrc : receiver.blocked ≠ m.src := by
      intro hblocked
      rw [since_blocked hblocked] at hline
      cases hline
    have hcut : BUF_SIZE - PACKAGE_HEAD ≤ text.length := by
      rw [hlen, fitting, List.length_take] at hinside
      simp only [BUF_SIZE, PACKAGE_HEAD, RID_SIZE, UID_SIZE] at hinside ⊢
      have hoffset : packOffset .IDENTIFIED_PACKAGE_M = 21 := rfl
      omega
    rw [printed_identified (haccepts hsrc) hnew htype, (hlong hcut).2] at hline
    have hsame : load m.data PACKAGE_HEAD UID_SIZE = s.myIp.toList ∧
        cstring (load m.data m.len UID_SIZE) = [] := by simpa using hline
    exact ⟨hsrc, hcut, hnul.mp hsame.2⟩
  · rintro ⟨hsrc, hcut, hzero⟩
    obtain ⟨haddress, htext⟩ := hlong hcut
    refine ⟨?_, ?_⟩
    · rw [printed_identified (haccepts hsrc) hnew htype, haddress, htext, hnul.mpr hzero,
        List.append_nil]
    · rw [fitting_length hcut, hlen, Nat.min_eq_right hcut]
      decide

/-- A node `fe80::1` that knows the neighbour `b`, with a line in `cmd`. -/
def writer (line : List UInt8) : Node :=
  { (boot (linkLocal 0 1) (ems.nameOf [97]) (fun n => UInt8.ofNat (n + 1))).registerIp
      (linkLocal 0 2) (linkLocal 0 2) (some [98]) with
    cmd := store (fun _ => 0) 0 line }

/-- The neighbour. -/
def reader : Node := boot (linkLocal 0 2) (ems.nameOf [98]) (fun _ => 0)

/-- A package that arrives from `fe80::1` in a receive buffer of zeros. -/
def arriving (package : List UInt8) : Datagram :=
  { src := linkLocal 0 1
    data := store (fun _ => 0) 0 package
    len := package.length }

/-- The line `Sb hi`. -/
def greeting : List UInt8 := [0x53, 98, 0x20, 104, 105, 0]

/-- The package it makes: only two bytes of the address are left. -/
def greetingPackage : List UInt8 := [2, 2, 3, 4, PackageType.IDENTIFIED_PACKAGE_M.code, 0xfe, 0x80]

theorem greeting_typed : (writer greeting).Typed .cmd 0 0x53 [98] [104, 105] :=
  ⟨.inl rfl, by decide, by simp, by simp, by decide⟩

/-- The neighbour prints an address with zeros at the end, and no text. -/
theorem greeting_lost :
    (writer greeting).Typed .cmd 0 0x53 [98] [104, 105] ∧
    (writer greeting).newSendBuf = some 0 ∧
    .SendPackage (.sendOut 0) greetingPackage (linkLocal 0 2) ∈
      (writer greeting).since ((writer greeting).executeCmd .cmd 0) ∧
    reader.rids.existsRid (arriving greetingPackage).rid = 0 ∧
    (reader.since (reader.receive (arriving greetingPackage))).filterMap Event.printed? =
      [.text "New Package from ", .hex [0xfe, 0x80, 0, 0, 0, 0, 0, 0, 0, 0, 0, 0, 0, 0, 0, 0],
        .text ":", .bytes [], .newline] ∧
    (writer greeting).myIp.toList = [0xfe, 0x80, 0, 0, 0, 0, 0, 0, 0, 0, 0, 0, 0, 0, 0, 1] :=
  ⟨greeting_typed, by decide⟩

theorem greeting_unprinted :
    ¬ reader.Prints (arriving greetingPackage) (writer greeting).myIp (fitting [104, 105]) := by
  have hsent : .SendPackage (.sendOut 0) greetingPackage (linkLocal 0 2) ∈
      (writer greeting).since ((writer greeting).executeCmd .cmd 0) := by decide
  rw [text_printed_iff greeting_typed (by decide) .refl hsent ⟨rfl, by decide⟩ (by decide)]
  exact fun h => absurd h.2.1 (by decide)

theorem executed_command {s : Node} {m : Datagram} (haccepts : s.Accepts m)
    (hnew : s.rids.existsRid m.rid = 0) (htype : m.type = some .COMMAND_M) :
    (s.since (s.receive m)).filterMap Event.executed? = [stringAt m.data PACKAGE_HEAD] := by
  obtain ⟨last, hacts, hnone⟩ := receive_command haccepts hnew htype
  have hlast : last.filterMap Event.executed? = [] := List.filterMap_eq_nil_iff.mpr hnone
  rw [hacts.since_eq, List.filterMap_cons_none rfl, List.filterMap_cons, hlast]
  rfl

/-- A string that begins at an address with a text behind it is the text only
if it ends within the address. -/
theorem stringAt_address {d : Nat → UInt8} {offset : Nat} {address : Uid} {text : List UInt8}
    (hload : load d offset (UID_SIZE + text.length) = address.toList ++ text)
    (htext : ∀ c ∈ text, c ≠ 0) (hroom : UID_SIZE + text.length ≤ XDATA_SIZE) :
    stringAt d offset = text ↔ text ++ [0] <+: address.toList := by
  have haddress := (load_eq_append hload).1
  have hends : ∀ bytes, (∀ c ∈ bytes, c ≠ 0) → bytes ++ [0] <+: address.toList →
      stringAt d offset = bytes := by
    rintro bytes hbytes ⟨rest, hrest⟩
    rw [List.Vector.toList_length, ← hrest] at haddress
    have hread := (load_eq_append haddress).1
    rw [List.length_append, List.length_singleton] at hread
    have hsize := congrArg List.length hrest
    rw [List.length_append, List.length_append, List.length_singleton,
      List.Vector.toList_length] at hsize
    apply stringFrom_of_load hread hbytes
    simp only [XDATA_SIZE, ems.UID_SIZE] at hsize ⊢
    omega
  refine ⟨fun hstring => ?_, hends text htext⟩
  by_cases hnul : 0 ∈ address.toList
  · obtain ⟨bytes, rest, heq, hbytes⟩ := List.eq_append_cons_of_mem hnul
    have hbegins : bytes ++ [0] <+: address.toList := ⟨rest, by rw [heq]; simp⟩
    have hne : ∀ c ∈ bytes, c ≠ 0 := fun c hc h => hbytes (h ▸ hc)
    rwa [← hstring, hends bytes hne hbegins]
  · have hplain : ∀ c ∈ load d offset (UID_SIZE + text.length), c ≠ 0 := by
      intro c hc
      rw [hload] at hc
      obtain hin | hin := List.mem_append.mp hc
      · exact fun h => hnul (h ▸ hin)
      · exact htext c hin
    have hlonger := stringFrom_of_ne hplain hroom
    rw [← stringAt, hstring] at hlonger
    simp only [UID_SIZE] at hlonger
    omega

/-- A command is executed exactly if it is what the sender's own address
begins with, up to a NUL: the text lies behind the address, but it is the
address `executeCmd` is called on. -/
theorem command_executed_iff {s s' : Node} {r : Region} {offset : Nat} {name cmd : List UInt8}
    (htyped : s.Typed r offset 0x43 name cmd)
    (hfits : cmd.length ≤ BUF_SIZE - packOffset .COMMAND_M) {i : Fin SENDOUT_SIZE}
    (hfree : s.newSendBuf = some i) (hwaits : Waits i (s.executeCmd r offset) s')
    {package : List UInt8} {ip : Uid}
    (hsent : .SendPackage (.sendOut i) package ip ∈ s.since s') {receiver : Node} {m : Datagram}
    (hm : m.Carries package) (hnew : receiver.rids.existsRid m.rid = 0) :
    (receiver.since (receiver.receive m)).filterMap Event.executed? = [cmd] ↔
      receiver.blocked ≠ m.src ∧ cmd ++ [0] <+: s.myIp.toList := by
  obtain ⟨hlen, htype, hbody⟩ := text_carried htyped .command hfree hwaits hsent hm
  rw [Nat.min_eq_left hfits] at hlen
  have hwhole : load m.data PACKAGE_HEAD (UID_SIZE + cmd.length) = s.myIp.toList ++ cmd := by
    have hsize : m.len - PACKAGE_HEAD = UID_SIZE + cmd.length := by
      have hoffset : packOffset .COMMAND_M = PACKAGE_HEAD + UID_SIZE := rfl
      omega
    rw [hsize, List.take_of_length_le hfits] at hbody
    rw [hbody, List.take_of_length_le]
    rw [List.length_append, List.Vector.toList_length]
  have hroom : UID_SIZE + cmd.length ≤ XDATA_SIZE := by
    have hoffset : packOffset .COMMAND_M = 21 := rfl
    simp only [UID_SIZE, XDATA_SIZE, BUF_SIZE] at hfits ⊢
    omega
  have hstring := stringAt_address hwhole htyped.text_plain hroom
  by_cases hsrc : receiver.blocked = m.src
  · rw [since_blocked hsrc]
    exact iff_of_false nofun fun h => h.1 hsrc
  · have haccepts := accepts_new hsrc (le_trans (by decide) (hlen ▸ Nat.le_add_right _ _)) hnew
    rw [executed_command haccepts hnew htype, List.cons.injEq, hstring]
    exact ⟨fun h => ⟨hsrc, h.1⟩, fun h => ⟨h.2, rfl⟩⟩

/-- The line `Cb M`. -/
def question : List UInt8 := [0x43, 98, 0x20, 0x4d, 0]

/-- The package it makes. -/
def questionPackage : List UInt8 :=
  [2, 2, 3, 4, PackageType.COMMAND_M.code] ++ (linkLocal 0 1).toList ++ [0x4d]

theorem question_typed : (writer question).Typed .cmd 0 0x43 [98] [0x4d] :=
  ⟨.inl rfl, by decide, by simp, by simp, by decide⟩

/-- The neighbour executes the first bytes of the address. -/
theorem question_lost :
    (writer question).Typed .cmd 0 0x43 [98] [0x4d] ∧
    (writer question).newSendBuf = some 0 ∧
    .SendPackage (.sendOut 0) questionPackage (linkLocal 0 2) ∈
      (writer question).since ((writer question).executeCmd .cmd 0) ∧
    reader.rids.existsRid (arriving questionPackage).rid = 0 ∧
    (reader.since (reader.receive (arriving questionPackage))).filterMap Event.executed? =
      [[0xfe, 0x80]] :=
  ⟨question_typed, by decide⟩

theorem question_unexecuted :
    (reader.since (reader.receive (arriving questionPackage))).filterMap Event.executed? ≠
      [[0x4d]] := by
  have hsent : .SendPackage (.sendOut 0) questionPackage (linkLocal 0 2) ∈
      (writer question).since ((writer question).executeCmd .cmd 0) := by decide
  rw [ne_eq, command_executed_iff question_typed (by decide) (by decide) .refl hsent
    ⟨rfl, by decide⟩ (by decide)]
  exact fun h => absurd h.2 (by decide)

end Node

end concretid.com

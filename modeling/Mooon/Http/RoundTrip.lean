import Mooon.Http.Layout

/-! The head of a request, written out and parsed in one call. What the handlers see is the text
between the two addresses of an event. -/
namespace Mooon.Http
open Net (Bytes HandleResult)
open List Option

inductive Reading where
  | token (token : Token) (text : Bytes)
  | pair (name value : Option Bytes)
  | error (errmsg : String)
deriving DecidableEq

def slice (address : Nat) (buffer : Bytes) (start stop : Nat) : Bytes :=
  (buffer.drop (start-address)).take (stop-start)

/-- A name or a value of which one end is a null pointer is no text. -/
def Event.read (address : Nat) (buffer : Bytes) : Event → Reading
  | .onToken token start stop => .token token (slice address buffer start stop)
  | .onNameValuePair nameBegin nameEnd valueBegin valueEnd =>
    .pair (nameEnd.map fun stop => slice address buffer nameBegin stop)
      (valueBegin.map fun start => slice address buffer start valueEnd)
  | .onError errmsg => .error errmsg

def Line.reading (line : Line) : Reading :=
  match line.value with
  | none => .pair none none
  | some value => .pair (some line.name) (some value.text)

def Layout.readings (layout : Layout) (isRequest : Bool) : List Reading :=
  let (first,second,third) := tokens isRequest
  [.token first layout.first.text,.token second layout.second.text,.token third layout.third.text] ++
    layout.lines.map Line.reading

theorem slice_text {addr start stop : Nat} {buf : Bytes} (before text after : Bytes)
    (split : buf = before ++ (text ++ after)) (begins : start = addr + before.length)
    (ends : stop = start + text.length) : slice addr buf start stop = text := by
  unfold slice
  rw [split,ends,begins,Nat.add_sub_cancel_left,Nat.add_sub_cancel_left,drop_left,take_left]

theorem Word.event_read {ends : UInt8} (word : Word ends) (token : Token) (addr place : Nat)
    (before after : Bytes) (reached : place = addr + before.length) :
    (word.event token place).read addr (before ++ (word.bytes ++ after)) = .token token word.text := by
  unfold Word.event Event.read
  dsimp only
  rw [slice_text (before ++ replicate word.spaces space) word.text (ends::after)]
  · simp [Word.bytes]
  · rw [reached,length_append,length_replicate,Nat.add_assoc]
  · rfl

theorem Line.event_read (line : Line) (addr place : Nat) (before after : Bytes)
    (reached : place = addr + before.length) :
    (line.event place).read addr (before ++ (line.bytes ++ after)) = line.reading := by
  unfold Line.event Line.bytes Line.reading
  cases line.value with
  | none => rfl
  | some value =>
    dsimp only [Event.read,map_some]
    rw [slice_text (before ++ [lineFeed]) line.name (colon::(value.bytes++after)),
      slice_text (before ++ lineFeed::(line.name ++ colon::replicate value.spaces space)) value.text
        (carriageReturn::after)]
    · simp [Word.bytes]
    · simp only [length_append,length_cons,length_replicate]
      omega
    · rfl
    · simp
    · simp only [length_append,length_singleton]
      omega
    · rfl

theorem linesEvents_read (lines : List Line) (addr place : Nat) (before after : Bytes)
    (reached : place = addr + before.length) :
    (linesEvents place lines).map (Event.read addr (before ++ (linesBytes lines ++ after))) =
      lines.map Line.reading := by
  induction lines generalizing place before with
  | nil => rfl
  | cons line lines ih =>
    have shape : linesBytes (line::lines) ++ after = line.bytes ++ (linesBytes lines ++ after) :=
      append_assoc _ _ _
    have later := ih (place+line.bytes.length) (before++line.bytes)
      (by rw [reached,length_append,Nat.add_assoc])
    rw [linesEvents,map_cons,map_cons,shape,line.event_read addr place before _ reached]
    rw [append_assoc] at later
    rw [later]

theorem Layout.events_read (layout : Layout) (isRequest : Bool) (addr : Nat) (rest : Bytes) :
    (layout.events isRequest addr).map (Event.read addr (layout.bytes ++ rest)) =
      layout.readings isRequest := by
  have buf : layout.bytes ++ rest = layout.first.bytes ++ (layout.second.bytes ++ (layout.third.bytes ++
      (linesBytes layout.lines ++ ([lineFeed,carriageReturn,lineFeed] ++ rest)))) := by
    simp only [Layout.bytes,append_assoc]
  have first := layout.first.event_read (tokens isRequest).1 addr addr [] (layout.second.bytes ++
    (layout.third.bytes ++ (linesBytes layout.lines ++ ([lineFeed,carriageReturn,lineFeed] ++ rest)))) rfl
  have second := layout.second.event_read (tokens isRequest).2.1 addr (addr+layout.first.bytes.length)
    layout.first.bytes (layout.third.bytes ++
      (linesBytes layout.lines ++ ([lineFeed,carriageReturn,lineFeed] ++ rest)))
  have third := layout.third.event_read (tokens isRequest).2.2 addr
    (addr+layout.first.bytes.length+layout.second.bytes.length) (layout.first.bytes ++ layout.second.bytes)
    (linesBytes layout.lines ++ ([lineFeed,carriageReturn,lineFeed] ++ rest))
      (by rw [length_append,Nat.add_assoc])
  have lines := linesEvents_read layout.lines addr
    (addr+layout.first.bytes.length+layout.second.bytes.length+layout.third.bytes.length)
    (layout.first.bytes ++ (layout.second.bytes ++ layout.third.bytes))
      ([lineFeed,carriageReturn,lineFeed] ++ rest)
    (by simp only [length_append]; omega)
  simp only [append_assoc,nil_append] at first second third lines
  unfold Layout.events Layout.readings
  rw [buf]
  simp only [map_append,map_cons,map_nil,first,second,third,lines]

structure Header where
  name : Bytes
  value : Bytes
  named : name ≠ []
  nameBytes : ∀ char ∈ name, Plain char ∧ char ≠ colon
  valueBytes : ∀ char ∈ value, Plain char
  trimmed : value.head? ≠ some space

structure Request where
  method : Bytes
  url : Bytes
  version : Bytes
  headers : List Header
  methodWord : method ≠ [] ∧ ∀ char ∈ method, Plain char ∧ char ≠ space
  urlWord : url ≠ [] ∧ ∀ char ∈ url, Plain char ∧ char ≠ space
  versionWord : version ≠ [] ∧ ∀ char ∈ version, Plain char ∧ char ≠ space

def crlf : Bytes := [carriageReturn,lineFeed]

def Header.text (header : Header) : Bytes := header.name ++ (colon::space::(header.value ++ crlf))

def Request.text (request : Request) : Bytes :=
  request.method ++ (space::(request.url ++ (space::(request.version ++ (crlf ++
    ((request.headers.map Header.text).flatten ++ crlf))))))

def Request.readings (request : Request) : List Reading :=
  [.token .method request.method,.token .url request.url,.token .version request.version] ++
    request.headers.map fun header => .pair (some header.name) (some header.value)

def Header.field (header : Header) : Field :=
  ⟨header.name,1,header.value,header.named,header.nameBytes,header.valueBytes,header.trimmed⟩

theorem Header.exists_line (header : Header) (nonempty : header.value ≠ []) :
    ∃ line : Line, (∀ rest, line.bytes ++ lineFeed::rest = lineFeed::(header.text ++ rest)) ∧
      line.reading = .pair (some header.name) (some header.value) := by
  obtain ⟨value,text,spaces⟩ := header.field.exists_value nonempty
  obtain ⟨line,name,valued⟩ := header.field.exists_line (some value)
  refine ⟨line,fun rest => ?_,?_⟩
  · simp [Line.bytes,Word.bytes,Header.text,Header.field,crlf,text,spaces,name,valued]
  · simp [Line.reading,Header.field,text,name,valued]

theorem exists_lines (headers : List Header) (nonempty : ∀ header ∈ headers, header.value ≠ []) :
    ∃ lines : List Line,
      linesBytes lines ++ [lineFeed,carriageReturn,lineFeed] =
        lineFeed::((headers.map Header.text).flatten ++ crlf) ∧
        lines.map Line.reading = headers.map fun header => .pair (some header.name) (some header.value) := by
  induction headers with
  | nil => exact ⟨[],rfl,rfl⟩
  | cons header headers ih =>
    obtain ⟨first,later⟩ := forall_mem_cons.mp nonempty
    obtain ⟨line,bytes,reading⟩ := header.exists_line first
    obtain ⟨lines,split,readings⟩ := ih later
    refine ⟨line::lines,?_,?_⟩
    · have shape : linesBytes (line::lines) ++ [lineFeed,carriageReturn,lineFeed] =
          line.bytes ++ (linesBytes lines ++ [lineFeed,carriageReturn,lineFeed]) := append_assoc _ _ _
      rw [shape,split,bytes,map_cons,flatten_cons,append_assoc]
    · rw [map_cons,map_cons,reading,readings]

theorem Request.exists_layout (req : Request) (some : ∀ header ∈ req.headers, header.value ≠ []) :
    ∃ layout : Layout, layout.bytes = req.text ∧ layout.readings true = req.readings := by
  obtain ⟨method,methodText,methodSpaces⟩ := Word.exists_text space 0 req.methodWord.1
    (word_inside req.methodWord.2) (word_trimmed req.methodWord.2)
  obtain ⟨url,urlText,urlSpaces⟩ := Word.exists_text space 0 req.urlWord.1
    (word_inside req.urlWord.2) (word_trimmed req.urlWord.2)
  obtain ⟨version,versionText,versionSpaces⟩ := Word.exists_text carriageReturn 0 req.versionWord.1
    (fun char mem => ⟨(req.versionWord.2 char mem).1.1,(req.versionWord.2 char mem).1.2.1⟩)
    (word_trimmed req.versionWord.2)
  obtain ⟨lines,split,readings⟩ := exists_lines req.headers some
  refine ⟨⟨method,url,version,lines⟩,?_,?_⟩
  · simp [Layout.bytes,split,Word.bytes,methodText,methodSpaces,urlText,urlSpaces,versionText,versionSpaces,
      Request.text,crlf]
  · simp [Layout.readings,Request.readings,tokens,methodText,urlText,versionText,readings]

theorem Layout.value_nonempty (layout : Layout) {isRequest : Bool} {name value : Bytes}
    (mem : .pair (some name) (some value) ∈ layout.readings isRequest) : value ≠ [] := by
  rcases mem_append.mp mem with word | read
  · simp at word
  · obtain ⟨line,-,reading⟩ := mem_map.mp read
    unfold Line.reading at reading
    split at reading
    · cases reading
    · cases reading
      exact cons_ne_nil _ _

/-- The request that is parsed is the one that was written exactly when no value is empty. -/
theorem request_roundTrip_iff (request : Request) (address : Nat) :
    ((Parser.reset true).parse always address request.text).2 = .handleFinish ∧
      ((Parser.reset true).parse always address request.text).1.scan.events.map
        (Event.read address request.text) =
        request.readings ↔ ∀ header ∈ request.headers, header.value ≠ [] := by
  constructor
  · rintro ⟨finished,readings⟩ header member
    obtain ⟨layout,rest,split⟩ := Layout.of_finish finished
    obtain ⟨later,parsed,-,events⟩ := layout.parse_bytes true address rest
    rw [split,parsed,events,layout.events_read true address rest] at readings
    apply layout.value_nonempty
    rw [readings]
    exact mem_append_right _ (mem_map.mpr ⟨header,member,rfl⟩)
  · intro nonempty
    obtain ⟨layout,bytes,readings⟩ := request.exists_layout nonempty
    obtain ⟨later,parsed,-,events⟩ := layout.parse_bytes true address []
    have read := layout.events_read true address []
    rw [append_nil,bytes] at parsed read
    rw [parsed]
    exact ⟨rfl,by rw [events,read,readings]⟩

theorem single_word {char : UInt8} (plain : Plain char ∧ char ≠ space) :
    [char] ≠ [] ∧ ∀ other ∈ [char], Plain other ∧ other ≠ space :=
  ⟨cons_ne_nil _ _,forall_mem_singleton.mpr plain⟩

def Request.single (method url version : UInt8) (headers : List Header)
    (methodByte : Plain method ∧ method ≠ space)
    (urlByte : Plain url ∧ url ≠ space) (versionByte : Plain version ∧ version ≠ space) : Request :=
  ⟨[method],[url],[version],headers,single_word methodByte,single_word urlByte,single_word versionByte⟩

/-- `G / V` with one header `A` that has no value. -/
def emptyValue : Request :=
  .single 71 47 86
    [⟨[65],[],cons_ne_nil _ _,List.forall_mem_singleton.mpr (by decide),forall_mem_nil _,
      (some_ne_none space).symm⟩] (by decide) (by decide) (by decide)

theorem empty_value_unfinished : ((Parser.reset true).parse always 0 emptyValue.text).2 = .handleContinue ∧
      ((Parser.reset true).parse always 0 emptyValue.text).1.scan.events.map (Event.read 0 emptyValue.text) =
        [.token .method [71],.token .url [47],.token .version [86],
          .pair (some [65]) (some [carriageReturn,lineFeed])] := by
  decide

end Mooon.Http

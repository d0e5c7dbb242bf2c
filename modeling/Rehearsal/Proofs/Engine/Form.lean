import Mathlib.Data.List.Infix
import Rehearsal.Proofs.Command.Plan
import Rehearsal.Proofs.Text.Delimiter
import Rehearsal.Proofs.Text.Percent

/-!
# Forms that can be taken apart

The header of a part is one line, whatever the names in it are, and no two names make the
same header. A boundary line therefore stands in a form only between its parts, if none is
in the contents: cutting at the boundary lines gives the parts back, and the form of a
deployment gives the deployment back.
-/

namespace Rehearsal

open Text

namespace FormPart

section Header

variable {c : Char} {name other : String} {s t rest rest' : List Char}

/-- The name of a part as it is written. -/
def written (name : String) : List Char := Percent.encode reserved name.toList

theorem written_injective (h : written name = written other) : name = other :=
  String.toList_injective (Percent.encode_injective (by decide) h)

theorem nameParameter_cases (name : String) :
    nameParameter name = "name=\"".toList ++ (written name ++ ['"']) ∨
      nameParameter name = "name*=utf-8''".toList ++ written name := by
  rw [nameParameter]
  split
  · exact .inl (List.append_assoc _ _ _)
  · exact .inr rfl

theorem not_mem_written (absent : c ∈ reserved) (percent : c ≠ '%')
    (digit : ∀ n < 16, c ≠ hexUpper n) (name : String) : c ∉ written name := by
  intro mem
  obtain ⟨-, plain⟩ := Percent.mem_of_mem_encode mem percent digit
  rw [Percent.isEncoded_of_mem absent] at plain
  nomatch plain

theorem quote_not_mem_written (name : String) : '"' ∉ written name :=
  not_mem_written (by decide) (by decide) (by decide) name

theorem space_not_mem_written (name : String) : ' ' ∉ written name :=
  not_mem_written (by decide) (by decide) (by decide) name

theorem return_not_mem_written (name : String) : '\r' ∉ written name := by
  intro mem
  obtain ⟨-, plain⟩ := Percent.mem_of_mem_encode mem (by decide) (by decide)
  nomatch plain

/-- The name that is read up to its closing quote. -/
def readFileName : List Char → List Char
  | [] => []
  | '"' :: _ => []
  | '\\' :: c :: rest => c :: readFileName rest
  | c :: rest => c :: readFileName rest

/-- What is escaped in a file name has a backslash, and nothing else has. -/
theorem fileNameChar_cases (c : Char) :
    fileNameChar c = ['\\', c] ∨ fileNameChar c = [c] ∧ c ∉ ['\\', '"', '\r', '\n'] := by
  rw [fileNameChar]
  split
  · exact .inl rfl
  next plain => exact .inr ⟨rfl, by simpa [and_assoc] using plain⟩

theorem readFileName_escaped (s : List Char) :
    readFileName (s.flatMap fileNameChar ++ ['"']) = s := by
  induction s with
  | nil => rfl
  | cons c s ih =>
    obtain escaped | ⟨plain, ordinary⟩ := fileNameChar_cases c
    · rw [List.flatMap_cons, escaped, List.append_assoc, List.cons_append, List.cons_append,
        List.nil_append, readFileName, ih]
    · have unquoted : c ≠ '"' := fun h => ordinary (by simp [h])
      have unescaped : c ≠ '\\' := fun h => ordinary (by simp [h])
      rw [List.flatMap_cons, plain, List.append_assoc, List.singleton_append, readFileName, ih]
      · exact unquoted
      · intro _ _ backslash
        exact absurd backslash unescaped

theorem fileNameParameter_eq (name : String) : fileNameParameter name =
    "filename=\"".toList ++ (name.toList.flatMap fileNameChar ++ ['"']) :=
  List.append_assoc _ _ _

theorem fileNameParameter_injective (h : fileNameParameter name = fileNameParameter other) :
    name = other := by
  rw [fileNameParameter_eq, fileNameParameter_eq, List.append_cancel_left_eq] at h
  have read := readFileName_escaped name.toList
  rw [h, readFileName_escaped] at read
  exact String.toList_injective read.symm

/-- What the name of a file adds to a header. -/
def fileText (fileName : Option String) : List Char :=
  fileName.elim [] fun name => ';' :: ' ' :: fileNameParameter name

theorem fileText_injective {fileName fileName' : Option String}
    (h : fileText fileName = fileText fileName') : fileName = fileName' := by
  cases fileName with
  | none =>
    cases fileName' with
    | none => rfl
    | some _ => nomatch h
  | some name =>
    cases fileName' with
    | none => nomatch h
    | some other =>
      have same := List.cons.inj (List.cons.inj h).2
      rw [fileNameParameter_injective same.2]

/-- A name that is not quoted ends where the space before the name of a file stands, or where
the header ends. -/
theorem written_append_fileText {fileName fileName' : Option String}
    (h : written name ++ fileText fileName = written other ++ fileText fileName') :
    name = other ∧ fileName = fileName' := by
  have spaceless (name : String) : ' ' ∉ written name ++ [';'] := by
    simp [space_not_mem_written]
  have split (name file : String) : written name ++ fileText (some file) =
      (written name ++ [';']) ++ ' ' :: fileNameParameter file := by
    simp [fileText]
  cases fileName with
  | none =>
    cases fileName' with
    | none =>
      rw [List.append_cancel_right_eq] at h
      exact ⟨written_injective h, rfl⟩
    | some file =>
      refine absurd ?_ (space_not_mem_written name)
      have space : ' ' ∈ written name ++ fileText none := by
        rw [h, split]
        simp
      simpa [fileText] using space
  | some file =>
    cases fileName' with
    | none =>
      refine absurd ?_ (space_not_mem_written other)
      have space : ' ' ∈ written other ++ fileText none := by
        rw [← h, split]
        simp
      simpa [fileText] using space
    | some file' =>
      rw [split, split] at h
      obtain ⟨front, behind⟩ := eq_of_append_cons (spaceless name) (spaceless other) h
      rw [List.append_cancel_right_eq] at front
      rw [written_injective front, fileNameParameter_injective behind]
      exact ⟨rfl, rfl⟩

theorem header_eq (p : FormPart) : p.header =
    "Content-Disposition: form-data; ".toList ++ (nameParameter p.name ++ fileText p.fileName) :=
  List.append_assoc _ _ _

/-- A header names one part, whatever the names are. -/
theorem header_injective {p q : FormPart} (h : p.header = q.header) :
    p.name = q.name ∧ p.fileName = q.fileName := by
  rw [header_eq, header_eq, List.append_cancel_left_eq] at h
  obtain quoted | plain := nameParameter_cases p.name
  · obtain quoted' | plain' := nameParameter_cases q.name
    · rw [quoted, quoted'] at h
      simp only [List.append_assoc, List.append_cancel_left_eq, List.singleton_append] at h
      obtain ⟨front, behind⟩ :=
        eq_of_append_cons (quote_not_mem_written p.name) (quote_not_mem_written q.name) h
      exact ⟨written_injective front, fileText_injective behind⟩
    · rw [quoted, plain'] at h
      simp at h
  · obtain quoted' | plain' := nameParameter_cases q.name
    · rw [plain, quoted'] at h
      simp at h
    · rw [plain, plain', List.append_assoc, List.append_assoc, List.append_cancel_left_eq] at h
      exact written_append_fileText h

/-- A line end in a file name is written with a backslash before each of its characters. -/
theorem unbroken_escaped (s : List Char) :
    ¬ ['\r', '\n'] <:+: s.flatMap fileNameChar ++ ['"', '\r'] := by
  induction s with
  | nil => decide
  | cons c s ih =>
    have behind : ¬ ['\n'] <+: s.flatMap fileNameChar ++ ['"', '\r'] := by
      cases s with
      | nil => decide
      | cons d s =>
        obtain escaped | ⟨plain, ordinary⟩ := fileNameChar_cases d
        · simp [escaped]
        · rintro begins
          simp [plain] at begins
          simp [← begins] at ordinary
    obtain escaped | ⟨plain, ordinary⟩ := fileNameChar_cases c
    · intro broken
      rw [List.flatMap_cons, escaped, List.append_assoc, List.cons_append, List.singleton_append,
        List.infix_cons_iff, List.infix_cons_iff] at broken
      obtain begins | begins | broken := broken
      · simp at begins
      · exact behind (List.cons_prefix_cons.mp begins).2
      · exact ih broken
    · rw [List.flatMap_cons, plain, List.append_assoc]
      intro broken
      refine ih (infix_of_infix_append ?_ broken)
      rw [List.mem_singleton]
      rintro rfl
      exact ordinary (by decide)

/-- A header is one line, and no line end begins at its end. -/
theorem unbroken_header (p : FormPart) : ¬ lineEnd <:+: p.header ++ ['\r'] := by
  have fixed : '\r' ∉ "Content-Disposition: form-data; ".toList := by decide
  have name : '\r' ∉ nameParameter p.name := by
    obtain quoted | plain := nameParameter_cases p.name
    · rw [quoted]
      simp [return_not_mem_written]
    · rw [plain]
      simp [return_not_mem_written]
  have file : ¬ lineEnd <:+: fileText p.fileName ++ ['\r'] := by
    cases p.fileName with
    | none => decide
    | some file =>
      have front : '\r' ∉ "; filename=\"".toList := by decide
      have split : fileText (some file) ++ ['\r'] =
          "; filename=\"".toList ++ (file.toList.flatMap fileNameChar ++ ['"', '\r']) := by
        simp [fileText, fileNameParameter_eq]
      rw [split]
      exact fun broken => unbroken_escaped _ (infix_of_infix_append front broken)
  intro broken
  rw [header_eq, List.append_assoc, List.append_assoc] at broken
  exact file (infix_of_infix_append name (infix_of_infix_append fixed broken))

end Header

section Pieces

variable {boundary : String} {p : FormPart} {parts : List FormPart} {front : Bytes}

/-- The boundary with the dashes before it. -/
def dashed (boundary : String) : List Char := '-' :: '-' :: boundary.toList

/-- The end of a line with the boundary behind it. -/
def delimiter (boundary : String) : Bytes := Utf8.encode (lineEnd ++ dashed boundary)

/-- A part as it stands between two delimiters. -/
def piece (p : FormPart) : Bytes :=
  Utf8.encode lineEnd ++
    (Utf8.encode p.header ++ (Utf8.encode (lineEnd ++ lineEnd) ++ p.content))

/-- A content that no boundary line begins in: the delimiter is no part of it, and the
boundary is not its beginning. -/
structure IsClear (boundary : String) (content : Bytes) : Prop where
  inside : ¬ delimiter boundary <:+: content
  first : ¬ Utf8.encode (dashed boundary) <+: content

instance (boundary : String) (content : Bytes) : Decidable (IsClear boundary content) :=
  decidable_of_iff
    (¬ delimiter boundary <:+: content ∧ ¬ Utf8.encode (dashed boundary) <+: content)
    ⟨fun h => ⟨h.1, h.2⟩, fun h => ⟨h.1, h.2⟩⟩

theorem unbroken_encode_header (p : FormPart) :
    ¬ [0x0d, 0x0a] <:+: Utf8.encode p.header ++ [0x0d] := by
  have mark : Utf8.encode lineEnd = [0x0d, 0x0a] := rfl
  have last : Utf8.encode ['\r'] = [0x0d] := rfl
  rw [← mark, ← last, ← Utf8.encode_append, Utf8.encode_infix_iff]
  exact unbroken_header p

theorem encode_header_eq_cons (p : FormPart) : ∃ rest, Utf8.encode p.header = 0x43 :: rest := by
  rw [header_eq, Utf8.encode_append]
  exact ⟨_, rfl⟩

/-- A boundary line begins neither in the header nor in the lines around it. -/
theorem not_infix_piece (clear : IsClear boundary p.content) :
    ¬ delimiter boundary <:+: p.piece := by
  have mark : delimiter boundary = 0x0d :: 0x0a :: Utf8.encode (dashed boundary) := rfl
  have dash : Utf8.encode (dashed boundary) = 0x2d :: 0x2d :: Utf8.encode boundary.toList := rfl
  have whole : p.piece =
      0x0d :: 0x0a :: (Utf8.encode p.header ++ 0x0d :: 0x0a :: 0x0d :: 0x0a :: p.content) := rfl
  obtain ⟨rest, header⟩ := encode_header_eq_cons p
  obtain ⟨inside, first⟩ := clear
  -- a delimiter begins with the end of a line
  rw [mark] at inside ⊢
  intro broken
  rw [whole, List.infix_cons_iff, List.infix_cons_iff] at broken
  obtain begins | begins | broken := broken
  · rw [header, dash] at begins
    simp at begins
  · simp at begins
  have blank := infix_of_infix_append_cons (unbroken_encode_header p) broken
  simp only [List.infix_cons_iff] at blank
  obtain begins | begins | begins | begins | broken := blank
  · rw [dash] at begins
    simp at begins
  · simp at begins
  · exact first (by simpa using begins)
  · simp at begins
  · exact inside broken

theorem delimiter_ne_nil (boundary : String) : delimiter boundary ≠ [] := List.cons_ne_nil _ _

theorem fresh_piece (whole : '\r' ∉ boundary.toList) (clear : IsClear boundary p.content) :
    Fresh (delimiter boundary) p.piece := by
  refine fresh_of_absent ?_ (not_infix_piece clear)
  have mark : Utf8.encode ['\n', '-', '-'] = [0x0a, 0x2d, 0x2d] := rfl
  have again : 0x0d ∉ Utf8.encode boundary.toList := by
    intro mem
    have found : Utf8.encode ['\r'] <:+: Utf8.encode boundary.toList :=
      (List.singleton_infix_iff 0x0d _).mpr mem
    rw [Utf8.encode_infix_iff, List.singleton_infix_iff] at found
    exact whole found
  change 0x0d ∉ Utf8.encode ['\n', '-', '-'] ++ Utf8.encode boundary.toList
  simp [mark, again]

/-- No boundary line begins in what ends a form. -/
theorem not_infix_closing (boundary : String) :
    ¬ delimiter boundary <:+: Utf8.encode ('-' :: '-' :: lineEnd) := by
  have mark : delimiter boundary = 0x0d :: 0x0a :: Utf8.encode (dashed boundary) := rfl
  have dash : Utf8.encode (dashed boundary) = 0x2d :: 0x2d :: Utf8.encode boundary.toList := rfl
  have closing : Utf8.encode ('-' :: '-' :: lineEnd) = [0x2d, 0x2d, 0x0d, 0x0a] := rfl
  simp [mark, dash, closing, List.infix_cons_iff]

/-- The delimiters of a form stand between its parts. -/
theorem pieces_formBody (whole : '\r' ∉ boundary.toList)
    (fresh : Fresh (delimiter boundary) front)
    (clear : ∀ p ∈ parts, IsClear boundary p.content) :
    pieces (delimiter boundary) (front ++ (Utf8.encode lineEnd ++ formBody boundary parts)) =
      front :: (parts.map piece ++ [Utf8.encode ('-' :: '-' :: lineEnd)]) := by
  induction parts generalizing front with
  | nil =>
    have closing : Utf8.encode lineEnd ++ formBody boundary [] =
        delimiter boundary ++ Utf8.encode ('-' :: '-' :: lineEnd) := by
      rw [delimiter, ← Utf8.encode_append]
      simp [formBody, dashed]
    rw [closing, pieces_append (delimiter_ne_nil boundary) fresh,
      pieces_of_absent (not_infix_closing boundary)]
    rfl
  | cons p parts ih =>
    obtain ⟨first, behind⟩ := List.forall_mem_cons.mp clear
    have split : Utf8.encode lineEnd ++ formBody boundary (p :: parts) =
        delimiter boundary ++ (p.piece ++ (Utf8.encode lineEnd ++ formBody boundary parts)) := by
      simp [formBody, delimiter, piece, dashed, Utf8.encode_append]
    rw [split, pieces_append (delimiter_ne_nil boundary) fresh, ih (fresh_piece whole first) behind]
    rfl

/-- The header and the content of a piece. -/
def read (piece : Bytes) : Bytes × Bytes :=
  cut (Utf8.encode (lineEnd ++ lineEnd)) (cut (Utf8.encode lineEnd) piece).2

theorem read_piece (p : FormPart) : read p.piece = (Utf8.encode p.header, p.content) := by
  have line : cut (Utf8.encode lineEnd) p.piece =
      ([], Utf8.encode p.header ++ (Utf8.encode (lineEnd ++ lineEnd) ++ p.content)) :=
    cut_append (List.cons_ne_nil _ _) (fresh_nil _) _
  have blank : Fresh (Utf8.encode (lineEnd ++ lineEnd)) (Utf8.encode p.header) := by
    refine fresh_of_unbroken (by decide) fun broken => unbroken_encode_header p ?_
    exact broken.trans (List.prefix_append _ _).isInfix
  rw [read, line]
  exact cut_append (List.cons_ne_nil _ _) blank _

end Pieces

end FormPart

/-- The headers and the contents of the parts of a form. -/
def readForm (boundary : String) (body : Bytes) : List (Bytes × Bytes) :=
  let lines := pieces (FormPart.delimiter boundary) (Utf8.encode lineEnd ++ body)
  lines.tail.dropLast.map FormPart.read

theorem readForm_formBody {boundary : String} {parts : List FormPart}
    (whole : '\r' ∉ boundary.toList) (clear : ∀ p ∈ parts, FormPart.IsClear boundary p.content) :
    readForm boundary (formBody boundary parts) =
      parts.map fun p => (Utf8.encode p.header, p.content) := by
  have lines := FormPart.pieces_formBody whole (fresh_nil _) clear
  rw [List.nil_append] at lines
  rw [readForm, lines, List.tail_cons, List.dropLast_concat, List.map_map]
  exact List.map_congr_left fun p _ => FormPart.read_piece p

namespace Deployment

variable {boundary : String} {d e : Deployment}

/-- A text in which no boundary line begins. -/
def TextIsClear (boundary text : String) : Prop :=
  ¬ lineEnd ++ FormPart.dashed boundary <:+: text.toList ∧
    ¬ FormPart.dashed boundary <+: text.toList

instance (boundary text : String) : Decidable (TextIsClear boundary text) :=
  inferInstanceAs (Decidable (_ ∧ _))

/-- A deployment with no boundary line in its texts and in its files. -/
structure IsClear (boundary : String) (d : Deployment) : Prop where
  name : TextIsClear boundary d.name
  tenant : ∀ tenant ∈ d.tenantId, TextIsClear boundary tenant
  files : ∀ file ∈ d.files, FormPart.IsClear boundary file.content

instance (boundary : String) (d : Deployment) : Decidable (d.IsClear boundary) :=
  decidable_of_iff
    (TextIsClear boundary d.name ∧ (∀ tenant ∈ d.tenantId, TextIsClear boundary tenant) ∧
      ∀ file ∈ d.files, FormPart.IsClear boundary file.content)
    ⟨fun h => ⟨h.1, h.2.1, h.2.2⟩, fun h => ⟨h.1, h.2, h.3⟩⟩

theorem isClear_setting (name : String) {value : String} (clear : TextIsClear boundary value) :
    FormPart.IsClear boundary (setting name value).content where
  inside := by
    rw [FormPart.delimiter, setting, Utf8.encode_infix_iff]
    exact clear.1
  first := by
    rw [setting, Utf8.encode_prefix_iff]
    exact clear.2

theorem isClear_of_mem_switch {name : String} {on : Bool} {p : FormPart}
    (mem : p ∈ switch name on) : FormPart.IsClear boundary p.content := by
  cases on with
  | false => nomatch mem
  | true =>
    obtain rfl := List.mem_singleton.mp mem
    have text : "true".toList = ['t', 'r', 'u', 'e'] := rfl
    refine isClear_setting name ?_
    simp [TextIsClear, text, lineEnd, FormPart.dashed, List.infix_cons_iff]

theorem IsClear.of_mem_form (clear : d.IsClear boundary) {p : FormPart} (mem : p ∈ d.form) :
    FormPart.IsClear boundary p.content := by
  simp only [form, List.mem_append] at mem
  obtain (((name | filtering) | changed) | tenant) | upload := mem
  · obtain rfl := List.mem_singleton.mp name
    exact isClear_setting _ clear.name
  · exact isClear_of_mem_switch filtering
  · exact isClear_of_mem_switch changed
  · cases given : d.tenantId with
    | none =>
      rw [given] at tenant
      nomatch tenant
    | some value =>
      rw [given] at tenant
      obtain rfl := List.mem_singleton.mp tenant
      exact isClear_setting _ (clear.tenant value given)
  · obtain ⟨file, among, rfl⟩ := List.mem_map.mp upload
    exact clear.files file among

/-- The value of a setting in a form. A part that has the name of a setting, but is a file,
is not meant. -/
def settingOf (name : String) (parts : List FormPart) : Option Bytes :=
  (parts.find? fun p => p.fileName.isNone && p.name == name).map FormPart.content

/-- The files of a form. -/
def filesOf (parts : List FormPart) : List DeployedFile :=
  (parts.filter fun p => p.fileName.isSome).map fun p => ⟨p.name, p.content⟩

theorem settingOf_files (name : String) (files : List DeployedFile) :
    (files.map FormPart.ofFile).find? (fun p => p.fileName.isNone && p.name == name) = none := by
  rw [List.find?_eq_none]
  intro p mem
  obtain ⟨file, -, rfl⟩ := List.mem_map.mp mem
  simp [FormPart.ofFile]

theorem form_eq (d : Deployment) : d.form =
    [setting "deployment-name" d.name] ++
      ((if d.enableDuplicateFiltering then [setting "enable-duplicate-filtering" "true"] else []) ++
        ((if d.deployChangedOnly then [setting "deploy-changed-only" "true"] else []) ++
          ((d.tenantId.elim [] fun tenant => [setting "tenant-id" tenant]) ++
            d.files.map FormPart.ofFile))) := by
  simp [form, switch, FormPart.ofFile]

theorem settings_form (d : Deployment) :
    settingOf "deployment-name" d.form = some (Utf8.encode d.name.toList) ∧
      (settingOf "enable-duplicate-filtering" d.form).isSome = d.enableDuplicateFiltering ∧
      (settingOf "deploy-changed-only" d.form).isSome = d.deployChangedOnly ∧
      settingOf "tenant-id" d.form = d.tenantId.map fun tenant => Utf8.encode tenant.toList := by
  obtain ⟨name, files, filtering, changed, tenant⟩ := d
  rw [form_eq]
  cases filtering <;> cases changed <;> cases tenant <;>
    simp [settingOf, setting, settingOf_files, -List.find?_map]

theorem filesOf_form (d : Deployment) : filesOf d.form = d.files := by
  obtain ⟨name, files, filtering, changed, tenant⟩ := d
  have kept : filesOf (files.map FormPart.ofFile) = files := by
    simp [filesOf, List.filter_map, FormPart.ofFile, Function.comp_def]
  rw [filesOf] at kept
  rw [form_eq]
  cases filtering <;> cases changed <;> cases tenant <;>
    simp only [filesOf, setting, List.filter_append] <;> exact kept

/-- The form of a deployment says all of it. -/
theorem form_injective (same : d.form = e.form) : d = e := by
  obtain ⟨name, filtering, changed, tenant⟩ := settings_form d
  obtain ⟨name', filtering', changed', tenant'⟩ := settings_form e
  have files := filesOf_form d
  rw [same] at name filtering changed tenant files
  have text {s t : String} (bytes : Utf8.encode s.toList = Utf8.encode t.toList) : s = t :=
    String.toList_injective (Utf8.encode_injective bytes)
  obtain ⟨nameD, filesD, filteringD, changedD, tenantD⟩ := d
  obtain ⟨nameE, filesE, filteringE, changedE, tenantE⟩ := e
  obtain rfl : nameD = nameE := text (Option.some.inj (name.symm.trans name'))
  obtain rfl : filteringD = filteringE := filtering.symm.trans filtering'
  obtain rfl : changedD = changedE := changed.symm.trans changed'
  obtain rfl : tenantD = tenantE :=
    Option.map_injective (fun _ _ => text) (tenant.symm.trans tenant')
  obtain rfl : filesD = filesE := files.symm.trans (filesOf_form _)
  rfl

end Deployment

namespace Client

open Deployment

/-- The body of a deployment is unambiguous. The boundary lines take it apart into one part
for the name, for each switch that is on, for the tenant and for each file, in this order and
byte for byte, whatever the names of the files are; and no other deployment has this body. -/
theorem readForm_content (boundary : String) (d : Deployment)
    (whole : '\r' ∉ boundary.toList) (clear : d.IsClear boundary) :
    readForm boundary (content boundary (.deployment d)).bytes =
        List.map (fun p : FormPart => (Utf8.encode p.header, p.content))
          ([setting "deployment-name" d.name] ++
            (if d.enableDuplicateFiltering then [setting "enable-duplicate-filtering" "true"]
              else []) ++
            (if d.deployChangedOnly then [setting "deploy-changed-only" "true"] else []) ++
            (d.tenantId.elim [] fun tenant => [setting "tenant-id" tenant]) ++
            d.files.map fun file => ⟨file.name, some file.name, file.content⟩) ∧
      ∀ e : Deployment, e.IsClear boundary →
        (content boundary (.deployment e)).bytes = (content boundary (.deployment d)).bytes →
        e = d := by
  have read {d : Deployment} (clear : d.IsClear boundary) :
      readForm boundary (content boundary (.deployment d)).bytes =
        d.form.map fun p => (Utf8.encode p.header, p.content) :=
    readForm_formBody whole fun _ => clear.of_mem_form
  refine ⟨read clear, ?_⟩
  intro e clear' same
  have parts := read clear'
  rw [same, read clear] at parts
  refine form_injective ((List.map_inj_right ?_).mp parts).symm
  intro ⟨name, fileName, content⟩ ⟨name', fileName', content'⟩ both
  obtain ⟨header, content⟩ := Prod.mk.inj both
  obtain ⟨rfl, rfl⟩ : name = name' ∧ fileName = fileName' :=
    FormPart.header_injective (Utf8.encode_injective header)
  obtain rfl : _ = content' := content
  rfl

/-- A deployment with a file whose name tries to end its header, and one that is named after
a setting. -/
def forgedDeployment : Deployment :=
  ⟨"d", [⟨"a\"\r\n\\é", [0x0d, 0x0a, 0x2d, 0xff]⟩, ⟨"tenant-id", [0x74]⟩], true, false, none⟩

/-- A deployment in which the setting is a setting. -/
def plainDeployment : Deployment :=
  ⟨"d", [⟨"a\"\r\n\\é", [0x0d, 0x0a, 0x2d, 0xff]⟩], true, false, some "t"⟩

/-- The forged deployment is read as one with two files, and not taken for the plain one. -/
theorem readForm_of_forged :
    readForm "b" (content "b" (.deployment forgedDeployment)).bytes =
      [(Utf8.encode "Content-Disposition: form-data; name=\"deployment-name\"".toList, [0x64]),
        (Utf8.encode "Content-Disposition: form-data; name=\"enable-duplicate-filtering\"".toList,
          [0x74, 0x72, 0x75, 0x65]),
        (Utf8.encode ("Content-Disposition: form-data; name*=utf-8''a%22%0D%0A\\%C3%A9; " ++
            "filename=\"a\\\"\\\r\\\n\\\\é\"").toList, [0x0d, 0x0a, 0x2d, 0xff]),
        (Utf8.encode ("Content-Disposition: form-data; name=\"tenant-id\"; " ++
            "filename=\"tenant-id\"").toList, [0x74])] ∧
      (content "b" (.deployment plainDeployment)).bytes ≠
        (content "b" (.deployment forgedDeployment)).bytes := by
  obtain ⟨parts, only⟩ :=
    readForm_content "b" forgedDeployment (by decide) (by decide)
  refine ⟨?_, fun same => ?_⟩
  · rw [parts]
    decide +kernel
  · nomatch only plainDeployment (by decide) same

end Client
end Rehearsal

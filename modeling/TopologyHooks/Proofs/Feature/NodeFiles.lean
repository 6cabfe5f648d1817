import Mathlib.Data.List.Infix
import TopologyHooks.Feature.Mirror
import TopologyHooks.Feature.Proxy
import TopologyHooks.Proofs.Upsert

/-!
# Reading back the files of nodes

Two features write settings into files of nodes, line by line and in quotes, without escaping them.

* `Feature.NodeFile.readDropIn`, `Feature.NodeFile.readHosts` — what such a file says to someone who
  splits it at its line breaks and takes for a value what stands in quotes. These readers know lines
  and quotes alone: in both formats a backslash starts an escape, and in the first one a percent
  sign a specifier, and neither is interpreted here.
* `Feature.readBack_nodeFiles_iff` — the text of the files says what was configured exactly if no
  configured value has a line break or a quote in it. Values that have are written all the same
  (`Feature.not_readBack_nodeFiles`).
-/

set_option autoImplicit false

namespace TopologyHooks

namespace Feature

namespace NodeFile

/-! ## Readers -/

/-- What stands between the line breaks of a text. -/
def pieces (content : String) : List (List Char) := content.toList.splitOn '\n'

/-- What stands before and behind the first occurrence of a character. -/
def cut? (stop : Char) : List Char → Option (List Char × List Char)
  | [] => none
  | c :: cs => if c = stop then some ([], cs) else (cut? stop cs).map fun (a, b) => (c :: a, b)

/-- What stands before the first quote, on a line that starts and ends with certain texts. -/
def quoted? (start : String) (finish : List Char) (piece : List Char) : Option (List Char) :=
  match start.toList.isPrefixOf? piece with
  | none => none
  | some rest =>
    match cut? '"' rest with
    | none => none
    | some (value, tail) => if tail = finish then some value else none

/-- The variable that a line of a drop-in sets, and its value. -/
def setting? (piece : List Char) : Option (String × String) :=
  match quoted? "Environment=\"" [] piece with
  | none => none
  | some text => (cut? '=' text).map fun (name, value) => (String.ofList name, String.ofList value)

/-- What the lines of a drop-in set, up to an empty piece behind the last line break. -/
def settings? : List (List Char) → Option (List (String × String))
  | [] => none
  | [last] => if last = [] then some [] else none
  | piece :: next :: rest =>
    match setting? piece, settings? (next :: rest) with
    | some s, some ss => some (s :: ss)
    | _, _ => none

/-- What a drop-in for a service sets, by its lines and quotes alone. Escapes with a backslash and
specifiers with a percent sign stay as they are written. -/
def readDropIn (content : String) : Option (List (String × String)) :=
  match pieces content with
  | first :: rest => if first = "[Service]".toList then settings? rest else none
  | [] => none

/-- The host that a file of two lines names as the one to pull images from, by its lines and quotes
alone. Escapes with a backslash stay as they are written. -/
def readHosts (content : String) : Option String :=
  match pieces content with
  | [first, second, []] =>
    if second = "  capabilities = [\"pull\", \"resolve\"]".toList then
      (quoted? "[host.\"" [']'] first).map String.ofList
    else none
  | _ => none

/-- Whether a value can stand in quotes on a line as it is, for a reader of lines and quotes: it has
no line break and no quote in it. A backslash and a percent sign are letters like any other here,
though readers of the formats would go on to interpret them. -/
def Clean (value : String) : Prop := '\n' ∉ value.toList ∧ '"' ∉ value.toList

instance (value : String) : Decidable (Clean value) := inferInstanceAs (Decidable (_ ∧ _))

/-! ## What readers find -/

/-- The pieces between the occurrences of a character do not have it in them. -/
theorem not_mem_of_mem_splitOn {c : Char} : ∀ {text piece : List Char},
    piece ∈ text.splitOn c → c ∉ piece
  | [], piece, h => by
    rw [List.splitOn_nil, List.mem_singleton] at h
    simp [h]
  | d :: text, piece, h => by
    have ih {p : List Char} : p ∈ text.splitOn c → c ∉ p := not_mem_of_mem_splitOn
    rw [List.splitOn_cons_eq_if_modifyHead] at h
    split at h
    · rcases List.mem_cons.1 h with rfl | h
      · exact List.not_mem_nil
      · exact ih h
    · rename_i hd
      cases hsplit : text.splitOn c with
      | nil => exact absurd hsplit (List.splitOn_ne_nil c text)
      | cons first rest =>
        rw [hsplit] at h ih
        rcases List.mem_cons.1 h with rfl | h
        · have hne : c ≠ d := fun he => hd (by simp [he])
          simpa [hne] using ih List.mem_cons_self
        · exact ih (List.mem_cons_of_mem _ h)

/-- A text is cut into what stands before the first occurrence of a character and what stands behind
it. -/
theorem cut?_eq_some_iff {stop : Char} : ∀ {text a b : List Char},
    cut? stop text = some (a, b) ↔ text = a ++ stop :: b ∧ stop ∉ a
  | [], a, b => by simp [cut?]
  | c :: cs, a, b => by
    by_cases hc : c = stop
    · subst hc
      cases a with
      | nil => simp [cut?]
      | cons d a => simp +contextual [cut?]
    · rw [cut?, if_neg hc, Option.map_eq_some_iff]
      cases a with
      | nil => simp [hc]
      | cons d a =>
        simp only [Prod.exists, Prod.mk.injEq, List.cons.injEq, cut?_eq_some_iff, List.cons_append,
          List.mem_cons, not_or]
        constructor
        · rintro ⟨a, b, ⟨rfl, hstop⟩, ⟨rfl, rfl⟩, rfl⟩
          exact ⟨⟨rfl, rfl⟩, Ne.symm hc, hstop⟩
        · rintro ⟨⟨rfl, rfl⟩, -, hstop⟩
          exact ⟨a, b, ⟨rfl, hstop⟩, ⟨rfl, rfl⟩, rfl⟩

/-- The value in quotes is what stands between the start of a line and its finish, without a quote
in it. -/
theorem quoted?_eq_some_iff {start : String} {finish piece value : List Char} :
    quoted? start finish piece = some value ↔
      piece = start.toList ++ (value ++ '"' :: finish) ∧ '"' ∉ value := by
  have hstarts {rest : List Char} :
      start.toList.isPrefixOf? piece = some rest ↔ start.toList ++ rest = piece :=
    List.isPrefixOf?_eq_some_iff_append_eq
  unfold quoted?
  constructor
  · intro h
    split at h
    · cases h
    · rename_i rest hrest
      split at h
      · cases h
      · rename_i v tail hcut
        obtain ⟨rfl, hquote⟩ := cut?_eq_some_iff.1 hcut
        split at h
        · rename_i htail
          obtain rfl := Option.some.inj h
          exact ⟨by rw [← hstarts.1 hrest, htail], hquote⟩
        · cases h
  · rintro ⟨rfl, hquote⟩
    rw [hstarts.2 rfl]
    simp [cut?_eq_some_iff.2 ⟨rfl, hquote⟩]

/-- A line of a drop-in is read as a variable with its value exactly if it is how these are written,
and they can be told apart there. -/
theorem setting?_eq_some_iff {piece : List Char} {name value : String} :
    setting? piece = some (name, value) ↔
      piece = ("Environment=\"" ++ name ++ "=" ++ value ++ "\"").toList ∧
        '"' ∉ name.toList ∧ '=' ∉ name.toList ∧ '"' ∉ value.toList := by
  unfold setting?
  constructor
  · intro h
    split at h
    · cases h
    · rename_i text htext
      obtain ⟨rfl, hquote⟩ := quoted?_eq_some_iff.1 htext
      obtain ⟨⟨a, b⟩, hcut, hs⟩ := Option.map_eq_some_iff.1 h
      obtain ⟨rfl, hequals⟩ := cut?_eq_some_iff.1 hcut
      obtain ⟨rfl, rfl⟩ := Prod.mk.inj hs
      simp_all
  · rintro ⟨rfl, hname, hequals, hvalue⟩
    have hquoted : quoted? "Environment=\"" []
        ("Environment=\"" ++ name ++ "=" ++ value ++ "\"").toList =
          some (name.toList ++ '=' :: value.toList) :=
      quoted?_eq_some_iff.2 ⟨by simp, by simp [hname, hvalue]⟩
    rw [hquoted]
    simp [cut?_eq_some_iff.2 ⟨rfl, hequals⟩]

/-- The line that sets a variable. -/
def row (s : String × String) : List Char :=
  ("Environment=\"" ++ s.1 ++ "=" ++ s.2 ++ "\"").toList

/-- Whether a variable and its value can be told apart on a line. -/
def Legible (s : String × String) : Prop :=
  '"' ∉ s.1.toList ∧ '=' ∉ s.1.toList ∧ '"' ∉ s.2.toList

/-- Lines are read as settings exactly if they are their rows, with nothing behind the last line
break. -/
theorem settings?_eq_some_iff : ∀ {lines : List (List Char)} {ss : List (String × String)},
    settings? lines = some ss ↔ lines = ss.map row ++ [[]] ∧ ∀ s ∈ ss, Legible s
  | [], ss => by simp [settings?]
  | [last], ss => by
    cases ss with
    | nil => simp [settings?]
    | cons s ss => simp [settings?]
  | piece :: next :: rest, ss => by
    cases ss with
    | nil =>
      rw [settings?]
      split <;> simp
    | cons s ss =>
      rw [List.map_cons, List.cons_append, List.cons.injEq, List.forall_mem_cons, settings?]
      have ih : settings? (next :: rest) = some ss ↔
          next :: rest = ss.map row ++ [[]] ∧ ∀ s ∈ ss, Legible s := settings?_eq_some_iff
      have hs : setting? piece = some s ↔ piece = row s ∧ Legible s := setting?_eq_some_iff
      constructor
      · intro h
        split at h
        · rename_i s' ss' hpiece hrest
          obtain ⟨rfl, rfl⟩ := List.cons.inj (Option.some.inj h)
          exact ⟨⟨(hs.1 hpiece).1, (ih.1 hrest).1⟩, (hs.1 hpiece).2, (ih.1 hrest).2⟩
        · cases h
      · rintro ⟨⟨hpiece, hrest⟩, hlegible, hall⟩
        simp [hs.2 ⟨hpiece, hlegible⟩, ih.2 ⟨hrest, hall⟩]

/-- A drop-in is read as settings exactly if it is the heading and their rows, and all of them are
legible. -/
theorem readDropIn_eq_some_iff {content : String} {ss : List (String × String)} :
    readDropIn content = some ss ↔
      pieces content = "[Service]".toList :: (ss.map row ++ [[]]) ∧ ∀ s ∈ ss, Legible s := by
  unfold readDropIn
  cases pieces content with
  | nil => simp
  | cons first rest =>
    by_cases hfirst : first = "[Service]".toList
    · simp only [hfirst, if_true, settings?_eq_some_iff, List.cons.injEq, true_and]
    · simp only [hfirst, if_false, List.cons.injEq, false_and, reduceCtorEq]

/-- A file of hosts is read as naming one exactly if it consists of its two lines, without a quote
in the host. -/
theorem readHosts_eq_some_iff {content host : String} :
    readHosts content = some host ↔
      pieces content = [("[host.\"" ++ host ++ "\"]").toList,
        "  capabilities = [\"pull\", \"resolve\"]".toList, []] ∧ '"' ∉ host.toList := by
  unfold readHosts
  constructor
  · intro h
    split at h
    · rename_i first second hpieces
      split at h
      · rename_i hsecond
        obtain ⟨value, hvalue, rfl⟩ := Option.map_eq_some_iff.1 h
        obtain ⟨rfl, hquote⟩ := quoted?_eq_some_iff.1 hvalue
        refine ⟨by simp [hpieces, hsecond], by simpa using hquote⟩
      · cases h
    · cases h
  · rintro ⟨hpieces, hquote⟩
    have hquoted : quoted? "[host.\"" [']'] ("[host.\"" ++ host ++ "\"]").toList =
        some host.toList :=
      quoted?_eq_some_iff.2 ⟨by simp, hquote⟩
    simp only [hpieces, hquoted, if_true, Option.map_some, String.ofList_toList]

/-- A text falls into some pieces at its line breaks exactly if it consists of them with line breaks
between them, and there is none in them. -/
theorem pieces_eq_iff {content : String} {ls : List (List Char)} (hne : ls ≠ []) :
    pieces content = ls ↔ content.toList = ['\n'].intercalate ls ∧ ∀ l ∈ ls, '\n' ∉ l := by
  constructor
  · rintro rfl
    exact ⟨(List.intercalate_splitOn '\n').symm, fun l => not_mem_of_mem_splitOn⟩
  · rintro ⟨hcontent, hbreaks⟩
    rw [pieces, hcontent]
    exact List.splitOn_intercalate '\n' hbreaks hne

/-! ## What is written -/

/-- The settings of a variable, in capitals and in small letters, if it has a value. -/
def both (capitals small : String) : Option String → List (String × String)
  | none => []
  | some value => [(capitals, value), (small, value)]

/-- All that a drop-in shall set for a proxy. -/
def settingsOf (proxy : ClusterConfig.Proxy) : List (String × String) :=
  both "HTTP_PROXY" "http_proxy" proxy.http ++ both "HTTPS_PROXY" "https_proxy" proxy.https ++
    both "NO_PROXY" "no_proxy" (",".intercalate (Proxy.defaultNoProxy ++
      (proxy.additionalNo.filter (· ∉ Proxy.defaultNoProxy)).eraseDups))

/-- The host that a file shall name for the URL of a mirror. -/
def hostOf (url : String) : String :=
  if "://".toList <:+: url.toList then url else "https://" ++ url

/-- The rows with line breaks between them are the lines that the program joins. -/
theorem intercalate_rows (ss : List (String × String)) :
    ['\n'].intercalate (ss.map row ++ [[]]) =
      (String.join (ss.map fun s => Proxy.line s.1 s.2)).toList := by
  induction ss with
  | nil => rfl
  | cons s ss ih =>
    have hline : (Proxy.line s.1 s.2).toList = row s ++ ['\n'] := by
      -- written out, since the equation of `Proxy.line` takes seconds to derive
      show ("Environment=\"" ++ s.1 ++ "=" ++ s.2 ++ "\"\n").toList = _
      simp [row]
    rw [List.map_cons, List.cons_append, List.intercalate_cons_of_ne_nil (by simp), ih,
      List.map_cons, String.join_cons, String.toList_append, hline]

/-- The lines for an optional value are those of its two spellings, if there is one. -/
theorem optionalLines_eq (capitals small : String) (o : Option String) :
    Proxy.optionalLines capitals small o =
      String.join ((both capitals small o).map fun s => Proxy.line s.1 s.2) := by
  cases o with
  | none => rfl
  | some value => simp [Proxy.optionalLines, Proxy.lines, both]

/-- With a proxy for some traffic, the drop-in is the heading with a line for each of the
settings. -/
theorem dropIn?_eq_some {proxy : ClusterConfig.Proxy}
    (h : proxy.http ≠ none ∨ proxy.https ≠ none) :
    Proxy.dropIn? proxy = some ("[Service]\n" ++
      String.join ((settingsOf proxy).map fun s => Proxy.line s.1 s.2)) := by
  have hset : (proxy.http.isNone && proxy.https.isNone) = false := by
    rcases h with h | h <;> simp [Option.isNone_eq_false_iff, Option.isSome_iff_ne_none, h]
  have hall (value : String) : Proxy.lines "NO_PROXY" "no_proxy" value =
      Proxy.optionalLines "NO_PROXY" "no_proxy" (some value) := rfl
  rw [Proxy.dropIn?, hset, hall]
  simp only [optionalLines_eq, Proxy.noProxy, appendAllNew_eq, settingsOf, List.map_append]
  simp [String.append_assoc]

/-- The search for a part of a text finds it exactly if it stands there somewhere. -/
theorem contains_iff (part : List Char) : ∀ text : List Char,
    Mirror.contains part text = true ↔ part <:+: text
  | [] => by simp [Mirror.contains]
  | c :: cs => by
    rw [Mirror.contains, Bool.or_eq_true, contains_iff part cs, List.isPrefixOf_iff_prefix,
      List.infix_cons_iff]

/-- The host that the program writes is the one that the file shall name. -/
theorem host_eq_hostOf (url : String) : Mirror.host url = hostOf url := by
  simp [Mirror.host, hostOf, contains_iff]

/-- The host for a URL is clean exactly if the URL is; the scheme in front of it is clean anyway. -/
theorem clean_hostOf_iff {url : String} : Clean (hostOf url) ↔ Clean url := by
  unfold hostOf
  split
  · exact Iff.rfl
  · simp [Clean]

/-! ## What is read back -/

/-- There is no line break in a row exactly if there is none in the variable and none in its
value. -/
theorem not_mem_row_iff {s : String × String} :
    '\n' ∉ row s ↔ '\n' ∉ s.1.toList ∧ '\n' ∉ s.2.toList := by
  simp [row]

/-- The settings of a drop-in are read back exactly if all values are clean, as the names are. -/
theorem readDropIn_render_iff {ss : List (String × String)}
    (hnames : ∀ s ∈ ss, Clean s.1 ∧ '=' ∉ s.1.toList) :
    readDropIn ("[Service]\n" ++ String.join (ss.map fun s => Proxy.line s.1 s.2)) = some ss ↔
      ∀ s ∈ ss, Clean s.2 := by
  have hcontent : ("[Service]\n" ++ String.join (ss.map fun s => Proxy.line s.1 s.2)).toList =
      ['\n'].intercalate ("[Service]".toList :: (ss.map row ++ [[]])) := by
    rw [List.intercalate_cons_of_ne_nil (by simp), intercalate_rows, String.toList_append]
    rfl
  -- the text is the right one in any case: only lines and values can end too early
  rw [readDropIn_eq_some_iff, pieces_eq_iff (List.cons_ne_nil _ _), and_iff_right hcontent]
  constructor
  · rintro ⟨hbreaks, hlegible⟩ s hs
    have hrow : '\n' ∉ row s := hbreaks (row s) (by simp [List.mem_map_of_mem hs])
    exact ⟨(not_mem_row_iff.1 hrow).2, (hlegible s hs).2.2⟩
  · intro hclean
    refine ⟨fun l hl => ?_, fun s hs =>
      ⟨(hnames s hs).1.2, (hnames s hs).2, (hclean s hs).2⟩⟩
    rw [List.mem_cons, List.mem_append, List.mem_map, List.mem_singleton] at hl
    rcases hl with rfl | ⟨s, hs, rfl⟩ | rfl
    · decide
    · exact not_mem_row_iff.2 ⟨(hnames s hs).1.1, (hclean s hs).1⟩
    · exact List.not_mem_nil

/-- The host of a mirror is read back exactly if its URL is clean. -/
theorem readHosts_hosts_iff (url : String) :
    readHosts (Mirror.hosts url) = some (hostOf url) ↔ Clean url := by
  have hcontent : (Mirror.hosts url).toList = ['\n'].intercalate
      [("[host.\"" ++ hostOf url ++ "\"]").toList,
        "  capabilities = [\"pull\", \"resolve\"]".toList, []] := by
    simp [Mirror.hosts, host_eq_hostOf, List.intercalate_cons_cons]
  rw [readHosts_eq_some_iff, pieces_eq_iff (List.cons_ne_nil _ _), and_iff_right hcontent,
    ← clean_hostOf_iff, Clean]
  simp

/-! ## All values of a proxy -/

/-- The values of a proxy that were configured. -/
def valuesOf (proxy : ClusterConfig.Proxy) : List String :=
  proxy.http.toList ++ proxy.https.toList ++ proxy.additionalNo

/-- A character other than the separator stands in a joined text exactly if it stands in one of the
parts. -/
theorem mem_intercalate_iff {c d : Char} (h : c ≠ d) : ∀ {ls : List (List Char)},
    c ∈ [d].intercalate ls ↔ ∃ l ∈ ls, c ∈ l
  | [] => by simp
  | [l] => by simp
  | l :: l' :: ls => by
    rw [List.intercalate_cons_cons, List.mem_append, List.mem_append, mem_intercalate_iff h]
    simp [h]

/-- Values with commas between them are clean exactly if each of them is. -/
theorem clean_intercalate_iff {values : List String} :
    Clean (",".intercalate values) ↔ ∀ value ∈ values, Clean value := by
  have hmem {c : Char} (hc : c ≠ ',') :
      c ∈ (",".intercalate values).toList ↔ ∃ value ∈ values, c ∈ value.toList := by
    have hcomma : ",".toList = [','] := rfl
    rw [String.toList_intercalate, hcomma, mem_intercalate_iff hc]
    simp
  rw [Clean, hmem (by decide), hmem (by decide)]
  constructor
  · rintro ⟨hbreak, hquote⟩ value hvalue
    exact ⟨fun h => hbreak ⟨value, hvalue, h⟩, fun h => hquote ⟨value, hvalue, h⟩⟩
  · intro h
    exact ⟨fun ⟨value, hvalue, hb⟩ => (h value hvalue).1 hb,
      fun ⟨value, hvalue, hq⟩ => (h value hvalue).2 hq⟩

/-- Both spellings of an optional setting are clean exactly if its value is, if there is one. -/
theorem clean_both_iff {capitals small : String} {o : Option String} :
    (∀ s ∈ both capitals small o, Clean s.2) ↔ ∀ value ∈ o.toList, Clean value := by
  cases o <;> simp [both]

/-- The destinations that always bypass a proxy are clean. -/
theorem clean_noProxy_iff {others : List String} :
    (∀ value ∈ Proxy.defaultNoProxy ++ (others.filter (· ∉ Proxy.defaultNoProxy)).eraseDups,
      Clean value) ↔ ∀ value ∈ others, Clean value := by
  have hdefault : ∀ value ∈ Proxy.defaultNoProxy, Clean value := by decide
  rw [List.forall_mem_append, and_iff_right hdefault]
  simp only [List.mem_eraseDups, List.mem_filter, decide_eq_true_eq, and_imp]
  constructor
  · intro h value hvalue
    by_cases hmem : value ∈ Proxy.defaultNoProxy
    · exact hdefault value hmem
    · exact h value hvalue hmem
  · exact fun h value hvalue _ => h value hvalue

/-- All that a drop-in shall set is clean exactly if all values of the proxy are. -/
theorem clean_settingsOf_iff {proxy : ClusterConfig.Proxy} :
    (∀ s ∈ settingsOf proxy, Clean s.2) ↔ ∀ value ∈ valuesOf proxy, Clean value := by
  rw [settingsOf, valuesOf, List.forall_mem_append, List.forall_mem_append, List.forall_mem_append,
    List.forall_mem_append, clean_both_iff, clean_both_iff, clean_both_iff, Option.toList_some,
    List.forall_mem_singleton, clean_intercalate_iff, clean_noProxy_iff]

/-- A setting of an optional value has one of its two names. -/
theorem fst_of_mem_both {capitals small : String} {o : Option String} {s : String × String}
    (h : s ∈ both capitals small o) : s.1 = capitals ∨ s.1 = small := by
  cases o with
  | none => cases h
  | some value =>
    rcases List.mem_pair.1 h with rfl | rfl
    · exact .inl rfl
    · exact .inr rfl

/-- The names that a drop-in sets are clean and have no equals sign in them. -/
theorem clean_names (proxy : ClusterConfig.Proxy) :
    ∀ s ∈ settingsOf proxy, Clean s.1 ∧ '=' ∉ s.1.toList := by
  have hnames : ∀ name ∈ ["HTTP_PROXY", "http_proxy", "HTTPS_PROXY", "https_proxy", "NO_PROXY",
      "no_proxy"], Clean name ∧ '=' ∉ name.toList := by decide
  intro s hs
  refine hnames s.1 ?_
  rw [settingsOf, List.mem_append, List.mem_append] at hs
  rcases hs with (hs | hs) | hs <;> rcases fst_of_mem_both hs with he | he <;> simp [he]

end NodeFile

/-! ## The files -/

open NodeFile

/-- What stands in the first file at a path. -/
def contentAt? (spec : KubeadmConfigSpec) (path : String) : Option String :=
  (spec.files.find? fun f => f.path = path).bind Kubeadm.File.content

/-- After a file is put into a set-up, it is what stands at its path, whatever commands follow. -/
theorem contentAt?_upsertFile (spec : KubeadmConfigSpec) (file : Kubeadm.File) (command : String) :
    contentAt? ((spec.upsertFile file).ensureCommand command) file.path = file.content := by
  have hfind : (upsert Kubeadm.File.path file spec.files).find? (fun f => f.path = file.path) =
      some file := find?_upsert_self spec.files
  rw [contentAt?, KubeadmConfigSpec.ensureCommand, KubeadmConfigSpec.upsertFile, hfind,
    Option.bind_some]

/-- A configured proxy leaves a drop-in on the nodes from which its settings are read back exactly
if all its values are clean. -/
theorem exists_dropIn {proxy : ClusterConfig.Proxy} (h : proxy.http ≠ none ∨ proxy.https ≠ none)
    (spec : KubeadmConfigSpec) :
    ∃ content, contentAt? (Proxy.configure proxy spec) Proxy.dropInPath = some content ∧
      (readDropIn content = some (settingsOf proxy) ↔ ∀ value ∈ valuesOf proxy, Clean value) := by
  rw [Proxy.configure, dropIn?_eq_some h]
  exact ⟨_, contentAt?_upsertFile spec _ _,
    (readDropIn_render_iff (clean_names proxy)).trans clean_settingsOf_iff⟩

/-- A configured mirror leaves a file on the nodes from which its host is read back exactly if its
URL is clean. -/
theorem exists_hosts {mirror : ClusterConfig.Mirror} {spec spec' : KubeadmConfigSpec}
    (h : Mirror.configure mirror spec = .ok spec') :
    ∃ content, contentAt? spec' Mirror.hostsPath = some content ∧
      (readHosts content = some (hostOf (Text.trimmed mirror.url)) ↔
        Clean (Text.trimmed mirror.url)) := by
  unfold Mirror.configure at h
  by_cases hurl : (Text.trimmed mirror.url == "") = true
  · simp [hurl] at h
  · simp only [if_neg hurl, Except.ok.injEq] at h
    subst h
    exact ⟨_, contentAt?_upsertFile spec _ _, readHosts_hosts_iff _⟩

/-- A proxy and a mirror are written into files of nodes, from which their values can be read back
exactly if none of them has a line break or a quote in it. This is about the text of lines and
quotes; what escapes and specifiers would become is left open. -/
theorem readBack_nodeFiles_iff (proxy : ClusterConfig.Proxy) (mirror : ClusterConfig.Mirror)
    (spec : KubeadmConfigSpec) :
    (proxy.http ≠ none ∨ proxy.https ≠ none →
      ∃ content, contentAt? (Proxy.configure proxy spec) Proxy.dropInPath = some content ∧
        (readDropIn content = some (settingsOf proxy) ↔ ∀ value ∈ valuesOf proxy, Clean value)) ∧
    ∀ spec', Mirror.configure mirror spec = .ok spec' →
      ∃ content, contentAt? spec' Mirror.hostsPath = some content ∧
        (readHosts content = some (hostOf (Text.trimmed mirror.url)) ↔
          Clean (Text.trimmed mirror.url)) :=
  ⟨fun h => exists_dropIn h spec, fun _ => exists_hosts⟩

namespace Injected

/-- A proxy whose value goes on behind a line break. -/
def proxy : ClusterConfig.Proxy :=
  ⟨some "http://proxy.test:3128\nExecStartPre=/bin/date", none, []⟩

/-- A proxy for secure traffic, with a destination that is listed anyway and another one. -/
def plain : ClusterConfig.Proxy := ⟨none, some "http://proxy.test:3128", [".svc", "lb.test"]⟩

/-- The destinations that bypass this proxy. -/
def noProxy : String :=
  "localhost,127.0.0.1,kubernetes,kubernetes.default,.svc,.svc.cluster.local,lb.test"

/-- A mirror without a scheme, between blanks. -/
def mirror : ClusterConfig.Mirror := ⟨" mirror.test "⟩

end Injected

/-- A proxy for secure traffic and a mirror without a scheme are read back. -/
theorem readBack_nodeFiles_plain :
    (∃ content, contentAt? (Proxy.configure Injected.plain .blank) Proxy.dropInPath =
      some content ∧ readDropIn content = some
        [("HTTPS_PROXY", "http://proxy.test:3128"), ("https_proxy", "http://proxy.test:3128"),
          ("NO_PROXY", Injected.noProxy), ("no_proxy", Injected.noProxy)]) ∧
    ∃ spec content, Mirror.configure Injected.mirror .blank = .ok spec ∧
      contentAt? spec Mirror.hostsPath = some content ∧
      readHosts content = some "https://mirror.test" := by
  obtain ⟨hproxy, hmirror⟩ := readBack_nodeFiles_iff Injected.plain Injected.mirror .blank
  constructor
  · obtain ⟨content, hcontent, hread⟩ := hproxy (.inr (by decide))
    exact ⟨content, hcontent, hread.2 (by decide)⟩
  · obtain ⟨content, hcontent, hread⟩ := hmirror _ rfl
    exact ⟨_, content, rfl, hcontent, hread.2 (by decide)⟩

/-- A value with a line break is written as it is, and cannot be read back. -/
theorem not_readBack_nodeFiles : ¬ ∀ (proxy : ClusterConfig.Proxy) (spec : KubeadmConfigSpec),
    proxy.http ≠ none ∨ proxy.https ≠ none →
    ∃ content, contentAt? (Proxy.configure proxy spec) Proxy.dropInPath = some content ∧
      readDropIn content = some (settingsOf proxy) := by
  intro h
  have hset : Injected.proxy.http ≠ none ∨ Injected.proxy.https ≠ none := .inl (by decide)
  obtain ⟨content, hcontent, hread⟩ := h Injected.proxy .blank hset
  obtain ⟨_, hcontent', hiff⟩ := exists_dropIn hset .blank
  obtain rfl := Option.some.inj (hcontent.symm.trans hcontent')
  exact absurd (hiff.1 hread) (by decide)

end Feature

end TopologyHooks

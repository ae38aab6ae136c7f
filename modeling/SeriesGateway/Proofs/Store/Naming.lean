import SeriesGateway.Proofs.Store.Requests
import SeriesGateway.Proofs.Url.Segment

namespace SeriesGateway.Client

open Url.Path

/-- One segment reads as the name in the path of every request, and behind it stands only what is
asked. -/
def Names (c : Client) (name : String) : Prop :=
  ∃ segment, Percent.decode segment = Utf8.encode name.toList ∧
    ∀ endpoint u, c.Asks name endpoint u → u.path = .rooted (segment :: endpoint)

variable {c : Client} {name : String} {endpoint : List (List Char)} {u : Url}

theorem Asks.isPlain_endpoint (h : c.Asks name endpoint u) : ∀ s ∈ endpoint, IsPlain s := by
  have hall : ∀ s ∈ ["_compact".toList, "_dump".toList, "_query".toList], IsPlain s := by
    decide +kernel
  intro s hs
  apply hall
  cases h <;> simp_all

theorem Asks.map_encode_endpoint (h : c.Asks name endpoint u) :
    endpoint.map (Percent.encode Url.escapedInPath) = endpoint := by
  cases h <;> rfl

theorem IsWeb.path_of_isPlain (hc : c.IsWeb) (hname : IsPlain name.toList)
    (h : c.Asks name endpoint u) :
    u.path = .rooted (Percent.encode Url.escapedInPath name.toList :: endpoint) := by
  have hplain : ∀ s ∈ name.toList :: endpoint, IsPlain s := by
    intro s hs
    rcases List.mem_cons.1 hs with rfl | hrest
    · exact hname
    · exact h.isPlain_endpoint s hrest
  rw [hc.path_of_asks h, segmentsOf_of_isPlain hplain, List.map_cons, h.map_encode_endpoint]

theorem IsWeb.names_iff (hc : c.IsWeb) (name : String) : c.Names name ↔ IsPlain name.toList := by
  constructor
  · intro ⟨segment, hdecode, hpath⟩
    have hinfo := (hc.path_of_asks .info).symm.trans (hpath [] _ .info)
    rw [List.flatMap_nil, List.append_nil] at hinfo
    have hmem : segment ∈ segmentsOf true (Url.unbroken name.toList) := by
      rw [Url.Path.rooted.inj hinfo]
      exact List.mem_singleton_self segment
    exact isPlain_of_mem_segmentsOf hmem hdecode
  · intro hname
    exact ⟨_, hname.decode_encode, fun _ _ hasks => hc.path_of_isPlain hname hasks⟩

theorem eq_of_decode {segment : List Char} {p q : String}
    (hp : Percent.decode segment = Utf8.encode p.toList)
    (hq : Percent.decode segment = Utf8.encode q.toList) : p = q := by
  have hchars := congrArg Utf8.decode? (hp.symm.trans hq)
  rw [Utf8.decode?_encode, Utf8.decode?_encode, Option.some.injEq] at hchars
  exact String.toList_injective hchars

theorem Names.eq_of_path_eq {p q : String} {front back : List (List Char)} {v : Url}
    (hp : c.Names p) (hq : c.Names q) (hu : c.Asks p front u) (hv : c.Asks q back v)
    (hpath : u.path = v.path) : p = q ∧ front = back := by
  obtain ⟨segment, hdecode, hrooted⟩ := hp
  obtain ⟨segment', hdecode', hrooted'⟩ := hq
  rw [hrooted _ _ hu, hrooted' _ _ hv] at hpath
  obtain ⟨rfl, rfl⟩ := List.cons.inj (Url.Path.rooted.inj hpath)
  exact ⟨eq_of_decode hdecode hdecode', rfl⟩

/-- The list of all databases stands where a database of its name would. -/
theorem IsWeb.path_listUrl (hc : c.IsWeb) : c.listUrl.path = (c.databaseUrl "_all_dbs").path := by
  rw [hc.path_databaseUrl]
  obtain ⟨segments, hsegments⟩ := hc.rooted
  exact Url.path_withPath hc.scheme hsegments "_all_dbs".toList

/-- The plain names are those that a client addresses, and by them it tells databases and requests
apart. Only one of them is taken. -/
theorem names_iff_isPlain {address : String} (hmake : make address = .ok c)
    (hweb : Url.IsWeb c.url.scheme) :
    (∀ name, c.Names name ↔ IsPlain name.toList) ∧
    (∀ p q front back u v, c.Names p → c.Names q → c.Asks p front u → c.Asks q back v →
      u.path = v.path → p = q ∧ front = back) ∧
    ∀ name endpoint u, c.Names name → c.Asks name endpoint u → u.path = c.listUrl.path →
      name = "_all_dbs" ∧ endpoint = [] := by
  have hc := isWeb_of_make hmake hweb
  refine ⟨hc.names_iff, ?_, ?_⟩
  · intro p q front back u v hp hq hu hv hpath
    exact hp.eq_of_path_eq hq hu hv hpath
  · intro name endpoint u hname hasks hpath
    have hlist : c.Names "_all_dbs" := (hc.names_iff _).2 (by decide +kernel)
    exact hname.eq_of_path_eq hlist hasks .info (hpath.trans hc.path_listUrl)

/-- A store on this machine. -/
def atLocalStore : Client where
  url :=
    { scheme := "http", authority := some ⟨[], [], .name "localhost".toList, some 3133⟩
      isSetOff := false, path := .rooted [[]], query := none, fragment := none }

theorem make_localStore : make "http://localhost:3133/" = .ok atLocalStore := by
  decide +kernel

/-- Marks of URLs and letters of any script are escaped, and do no harm; an escape is not escaped
again. The name that is taken is told apart from the others. -/
theorem names_of_marks_and_letters :
    make "http://localhost:3133/" = .ok atLocalStore ∧ Url.IsWeb atLocalStore.url.scheme ∧
      atLocalStore.Names "100% säule?#&@:" ∧ ¬atLocalStore.Names "%25" ∧
      atLocalStore.Names "_all_dbs" ∧
      (Ask.info atLocalStore "_all_dbs").request.url.path = atLocalStore.listUrl.path ∧
      ∀ endpoint u, atLocalStore.Asks "100% säule?#&@:" endpoint u →
        u.path ≠ (Ask.info atLocalStore "_all_dbs").request.url.path ∧
          u.path ≠ atLocalStore.listUrl.path := by
  obtain ⟨hnames, hdistinct, hlist⟩ := names_iff_isPlain make_localStore (Or.inl rfl)
  have hmarks : atLocalStore.Names "100% säule?#&@:" := (hnames _).2 (by decide +kernel)
  have htaken : atLocalStore.Names "_all_dbs" := (hnames _).2 (by decide +kernel)
  refine ⟨make_localStore, Or.inl rfl, hmarks, ?_, htaken, by decide +kernel, ?_⟩
  · rw [hnames]
    decide +kernel
  · intro endpoint u hasks
    constructor
    · intro hpath
      have hsame := hdistinct _ _ endpoint [] u _ hmarks htaken hasks .info hpath
      exact absurd hsame.1 (by decide)
    · intro hpath
      have hsame := hlist _ endpoint u hmarks hasks hpath
      exact absurd hsame.1 (by decide)

/-- Names that part, lead upwards or are escaped are not addressed, and their requests reach other
databases and what is asked of those. -/
theorem names_beyond_one_segment :
    make "http://localhost:3133/" = .ok atLocalStore ∧
      ¬atLocalStore.Names "a/b" ∧ ¬atLocalStore.Names "a%2Fb" ∧ ¬atLocalStore.Names ".." ∧
      (Ask.info atLocalStore "x/../y").request.url = (Ask.info atLocalStore "y").request.url ∧
      (Ask.info atLocalStore "y/_compact").request.url =
        (Ask.compact atLocalStore "y").request.url := by
  have hc := isWeb_of_make make_localStore (Or.inl rfl)
  refine ⟨make_localStore, ?_, ?_, ?_, by decide +kernel, by decide +kernel⟩ <;>
    rw [hc.names_iff] <;> decide +kernel

end SeriesGateway.Client

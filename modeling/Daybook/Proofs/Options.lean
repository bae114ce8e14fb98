import Daybook.Options
import Daybook.Proofs.Template.Document

/-!
# Reading back options

Options are read back from their document as they were written, up to the minus signs of zeros
(`options_roundTrip`). Nothing that is built from them tells the difference: equal options have the same table
of templates or the same error in it, the same prices, and queries with the same trees.
-/

namespace Daybook

/-! ### Quotes -/

namespace Quote

/-- The same quote, with a price of the same value and as many places. -/
structure SameAs (q q' : Quote) : Prop where
  price : q.price.SameAs q'.price
  others_eq : { q with price := q'.price } = q'

/-- The quote without the minus sign that a zero may carry. -/
def unsigned (q : Quote) : Quote := { q with price := q.price.unsigned }

lemma sameAs_unsigned (q : Quote) : q.SameAs q.unsigned := ⟨q.price.sameAs_unsigned, rfl⟩

lemma SameAs.date_eq {q q' : Quote} (h : q.SameAs q') : q.date = q'.date := by
  rw [← h.others_eq]

lemma SameAs.currency_eq {q q' : Quote} (h : q.SameAs q') : q.currency = q'.currency := by
  rw [← h.others_eq]

lemma readsAs (q : Quote) : ReadsAs q q.unsigned := by
  obtain ⟨record, hrecord, get⟩ := Record.exists_of_objOf ["date", "currency", "price", "quote"]
    [("date", some (toJson q.date)), ("currency", some (toJson q.currency)),
      ("price", some (toJson q.price)), ("quote", some (toJson q.unit))] rfl (by decide)
  change Record.of? _ (toJson q) = _ at hrecord
  have date := Record.required_of_readsAs (get "date" _ (by simp)) (readsAs_date q.date)
  have currency := Record.required_of_readsAs (get "currency" _ (by simp)) (readsAs_string q.currency)
  have price := Record.required_of_readsAs (get "price" _ (by simp)) (readsAs_decimal q.price)
  have unit := Record.required_of_readsAs (get "quote" _ (by simp)) (readsAs_string q.unit)
  refine ⟨?_, Json.noConfusion⟩
  simp only [FromJson.fromJson?, hrecord, Option.bind_eq_bind, Option.bind_some, date, currency, price,
    unit, unsigned]

end Quote

/-! ### Price tables -/

namespace PriceTable

/-- The same currencies with the same quotes, in the same order. -/
def SameAs (t t' : PriceTable) : Prop :=
  List.Forall₂ (fun list list' => list.1 = list'.1 ∧ List.Forall₂ Quote.SameAs list.2 list'.2)
    t.lists t'.lists

variable {quotes quotes' : List Quote}

/-- A quote goes to its currency. -/
lemma changeList_same {q q' : Quote} (hq : q.SameAs q') {lists lists' : List (String × List Quote)}
    (h : SameAs ⟨lists⟩ ⟨lists'⟩) : SameAs ⟨changeList q.currency (· ++ [q]) lists⟩
      ⟨changeList q'.currency (· ++ [q']) lists'⟩ := by
  change List.Forall₂ _ lists lists' at h
  change List.Forall₂ _ (changeList _ _ lists) (changeList _ _ lists')
  rw [hq.currency_eq]
  induction h with
  | nil => exact .cons ⟨rfl, .cons hq .nil⟩ .nil
  | cons hlist h ih =>
    rw [changeList, changeList, hlist.1]
    split
    · exact .cons ⟨rfl, List.rel_append hlist.2 (.cons hq .nil)⟩ h
    · exact .cons hlist ih

lemma collect_same (h : List.Forall₂ Quote.SameAs quotes quotes') :
    SameAs ⟨collect quotes⟩ ⟨collect quotes'⟩ :=
  List.rel_foldl (R := Quote.SameAs) (P := fun lists lists' => SameAs ⟨lists⟩ ⟨lists'⟩)
    (fun _ _ hlists _ _ hq => changeList_same hq hlists) .nil h

/-- A quote finds its place by its date alone. -/
lemma sortByDate_same (h : List.Forall₂ Quote.SameAs quotes quotes') :
    List.Forall₂ Quote.SameAs (sortByDate quotes) (sortByDate quotes') := by
  obtain ⟨hlength, hzip⟩ := List.forall₂_iff_zip.1 h
  -- both lists are sorted by sorting the pairs
  have first := List.map_mergeSort (l := quotes.zip quotes') (f := Prod.fst)
    (r := fun x y => decide (x.1.date ≤ y.1.date)) (s := fun q r => decide (q.date ≤ r.date))
    fun _ _ _ _ => rfl
  have second := List.map_mergeSort (l := quotes.zip quotes') (f := Prod.snd)
    (r := fun x y => decide (x.1.date ≤ y.1.date)) (s := fun q r => decide (q.date ≤ r.date))
    fun _ hx _ hy => by rw [(hzip hx).date_eq, (hzip hy).date_eq]
  rw [List.map_fst_zip hlength.le] at first
  rw [List.map_snd_zip hlength.ge] at second
  rw [sortByDate, sortByDate, ← first, ← second, List.forall₂_map_left_iff, List.forall₂_map_right_iff,
    List.forall₂_same]
  intro x hx
  exact hzip (List.mem_mergeSort.1 hx)

lemma ofList_same (h : List.Forall₂ Quote.SameAs quotes quotes') :
    (ofList quotes).SameAs (ofList quotes') := by
  unfold SameAs ofList
  rw [List.forall₂_map_left_iff, List.forall₂_map_right_iff]
  exact (collect_same h).imp fun _ _ list => ⟨list.1, sortByDate_same list.2⟩

end PriceTable

/-! ### Options -/

namespace TemplateItemSpec

/-- The query of an item, if it is one. -/
def query? : TemplateItemSpec → Option QueryExpr
  | query q       => some q
  | reference _ _ => none

lemma SameAs.query? {item item' : TemplateItemSpec} (h : item.SameAs item') :
    Option.Rel QueryExpr.SameAs item.query? item'.query? := by
  cases h with
  | query h => exact .some h
  | reference => exact .none

end TemplateItemSpec

namespace Options

/-- The queries in the bodies of the templates, in order. -/
def queries (o : Options) : List QueryExpr := o.templates.flatMap fun s => s.items.filterMap (·.query?)

/-- The same settings, with the same templates and prices in the same order. -/
structure SameAs (o o' : Options) : Prop where
  templates : List.Forall₂ TemplateSpec.SameAs o.templates o'.templates
  prices : List.Forall₂ Quote.SameAs o.prices o'.prices
  others_eq : { o with templates := o'.templates, prices := o'.prices } = o'

variable {o o' : Options}

lemma SameAs.templateTable (h : o.SameAs o') :
    SameOutcome TemplateTable.SameAs o.templateTable o'.templateTable :=
  TemplateTable.ofSpecs_same h.templates

lemma SameAs.priceTable (h : o.SameAs o') : o.priceTable.SameAs o'.priceTable :=
  PriceTable.ofList_same h.prices

lemma SameAs.queries (h : o.SameAs o') : List.Forall₂ QueryExpr.SameAs o.queries o'.queries :=
  List.rel_flatMap h.templates fun _ _ same =>
    List.rel_filterMap (fun _ _ item => item.query?) same.items

/-- The options without the minus signs that zeros may carry. -/
def unsigned (o : Options) : Options :=
  { o with templates := o.templates.map (·.unsigned), prices := o.prices.map (·.unsigned) }

lemma sameAs_unsigned (o : Options) : o.SameAs o.unsigned where
  templates := forall₂_map_self TemplateSpec.sameAs_unsigned o.templates
  prices := forall₂_map_self Quote.sameAs_unsigned o.prices
  others_eq := rfl

lemma onlyKnownFields_toJson (o : Options) : onlyKnownFields (toJson o) = true := by
  obtain ⟨base, reporting?, templates, prices⟩ := o
  cases reporting? <;> rfl

lemma readsAs (o : Options) : ReadsAs o o.unsigned := by
  obtain ⟨record, hrecord, get⟩ := Record.exists_of_objOf fieldNames
    [("base_currency", some (toJson o.baseCurrency)),
      ("reporting_currency", o.reportingCurrency?.map toJson),
      ("templates", some (toJson o.templates)), ("prices", some (toJson o.prices))] rfl (by decide)
  change Record.of? _ (toJson o) = _ at hrecord
  have specs := readsAs_map TemplateSpec.readsAs o.templates
  have quotes := readsAs_map Quote.readsAs o.prices
  have base := Record.withDefault_of_read Daybook.baseCurrency (get "base_currency" _ (by simp))
    (readsAs_string o.baseCurrency).read
  have reporting := Record.withDefault_none (get "reporting_currency" _ (by simp))
    (rel_readsAs readsAs_string o.reportingCurrency?)
  have templates := Record.withDefault_of_read [] (get "templates" _ (by simp)) specs.read
  have prices := Record.withDefault_of_read [] (get "prices" _ (by simp)) quotes.read
  refine ⟨?_, Json.noConfusion⟩
  simp only [FromJson.fromJson?, onlyKnownFields_toJson, if_true, hrecord, Option.bind_eq_bind,
    Option.bind_some, base, reporting, templates, prices, unsigned]

end Options

/-- From the document of the options the same options are read. They have the same table of templates, or the
same error in it, and the same prices; and each query in a template, as deep as it may be nested, is the same
query and comes to the same tree. -/
theorem options_roundTrip (o : Options) : ∃ o' : Options,
    fromJson? (toJson o) = some o' ∧ o.SameAs o' ∧
    SameOutcome TemplateTable.SameAs o.templateTable o'.templateTable ∧
    o.priceTable.SameAs o'.priceTable ∧
    List.Forall₂ (fun q q' => q.SameAs q' ∧ SameOutcome FilterTree.SameAs q.compile q'.compile)
      o.queries o'.queries := by
  have same := o.sameAs_unsigned
  refine ⟨o.unsigned, o.readsAs.read, same, same.templateTable, same.priceTable, ?_⟩
  exact same.queries.imp fun _ _ h => ⟨h, h.compile⟩

end Daybook

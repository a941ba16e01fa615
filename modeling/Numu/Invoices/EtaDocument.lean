import Numu.Foundation.Calendar
import Numu.Foundation.UuidText
import Numu.Invoices.Invoice

/-!
# The document for the tax authority

`to_eta_format` derives the amounts of the lines and those of the header separately. Every number
of the document is a float.
-/

namespace Numu.Invoices
open Binary64 (nearest)
open Numu.Orders (Time UUID)

def InvoiceType.value : InvoiceType → String
  | .invoice => "I"
  | .creditNote => "C"
  | .debitNote => "D"

/-- The fields of an invoice that only the document reads. -/
structure EtaFields where
  id : UUID
  dateIssued : Time
  buyerTaxId : Option String := none
  buyerNationalId : Option String := none
  buyerBuildingNumber : Option String := none

structure EtaAddress where
  country : String
  governate : String
  regionCity : String
  street : String
  buildingNumber : String
  deriving DecidableEq, Repr

structure EtaParty where
  type : String
  id : String
  name : String
  address : EtaAddress
  branchID : Option String := none
  deriving DecidableEq, Repr

structure EtaTax where
  taxType : String
  amount : ℚ
  subType : String
  rate : ℚ
  deriving DecidableEq, Repr

structure EtaLine where
  description : String
  itemType : String
  itemCode : String
  unitType : String
  quantity : ℚ
  currencySold : String
  amountEGP : ℚ
  salesTotal : ℚ
  discountRate : Nat := 0
  discountAmount : ℚ
  netTotal : ℚ
  taxableItems : List EtaTax
  total : ℚ
  internalCode : String
  deriving DecidableEq, Repr

structure EtaDocument where
  issuer : EtaParty
  receiver : EtaParty
  documentType : String
  documentTypeVersion : String := "1.0"
  dateTimeIssued : String
  taxpayerActivityCode : String
  internalID : String
  invoiceLines : List EtaLine
  totalSalesAmount : ℚ
  totalDiscountAmount : ℚ
  netAmount : ℚ
  taxTotals : List (String × ℚ)
  totalAmount : ℚ
  extraDiscountAmount : ℚ
  deriving DecidableEq, Repr

/-- `strftime("%Y-%m-%dT%H:%M:%SZ")`. -/
def etaDateTime (time : Time) : String :=
  let date := Calendar.monthAndDay time
  let second := time / Calendar.secondLength % 86400
  let two := Calendar.padded 2
  String.ofList (Calendar.padded 4 (Calendar.yearOf date.1) ++
    '-' :: (two (Calendar.monthOfYear date.1) ++ '-' :: (two (date.2 + 1) ++
      'T' :: (two (second / 3600) ++ ':' :: (two (second / 60 % 60) ++
        ':' :: (two (second % 60) ++ ['Z']))))))

/-- The first of two texts that is not empty. -/
def firstGiven (text : Option String) (other : String) : String :=
  if Orders.given text then text.getD "" else other

/-- `sum((t.amount for t in item.taxes), Decimal("0"))`. -/
def InvoiceLineItem.vat (item : InvoiceLineItem) : ℚ :=
  (item.taxes.map TaxLine.amount).foldl DecimalContext.add 0

/-- A whole number of cents in major units. -/
def major (cents : Int) : ℚ := nearest (cents / 100)

namespace Invoice

def etaLine (invoice : Invoice) (item : InvoiceLineItem) : EtaLine :=
  let lineNetBeforeVat := DecimalContext.sub item.netTotal item.vat
  let salesVat := if 0 < invoice.vatRate then vatWithin item.salesTotal invoice.vatRate else 0
  let unitPriceBeforeVat :=
    if 0 < invoice.vatRate then
      DecimalContext.div item.unitPrice
        (DecimalContext.add 1 (DecimalContext.div invoice.vatRate 100))
    else item.unitPrice
  { description := item.description
    itemType := item.itemType
    itemCode := item.itemCode
    unitType := item.unitType
    quantity := nearest item.quantity
    currencySold := invoice.currency
    amountEGP := nearest unitPriceBeforeVat
    salesTotal := nearest (DecimalContext.sub item.salesTotal salesVat)
    discountAmount := nearest item.discount
    netTotal := nearest lineNetBeforeVat
    taxableItems := item.taxes.map fun tax => {
      taxType := tax.taxType
      amount := nearest tax.amount
      subType := tax.subType
      rate := nearest tax.rate }
    total := nearest item.total
    internalCode := item.internalCode.getD "" }

def issuer (invoice : Invoice) : EtaParty where
  type := "B"
  id := invoice.seller.taxId
  name := invoice.seller.name
  address := {
    country := invoice.seller.country
    governate := invoice.seller.governorate.getD ""
    regionCity := invoice.seller.city.getD ""
    street := invoice.seller.street.getD ""
    buildingNumber := invoice.seller.buildingNumber.getD "" }
  branchID := some invoice.seller.branchId

def receiver (invoice : Invoice) (fields : EtaFields) : EtaParty where
  type := invoice.buyer.buyerType
  id := firstGiven fields.buyerTaxId (fields.buyerNationalId.getD "")
  name := invoice.buyer.name
  address := {
    country := invoice.buyer.country
    governate := invoice.buyer.governorate.getD ""
    regionCity := invoice.buyer.city.getD ""
    street := invoice.buyer.street.getD ""
    buildingNumber := fields.buyerBuildingNumber.getD "" }

def toEtaFormat (invoice : Invoice) (fields : EtaFields) : EtaDocument where
  issuer := invoice.issuer
  receiver := invoice.receiver fields
  documentType := invoice.invoiceType.value
  dateTimeIssued := etaDateTime fields.dateIssued
  taxpayerActivityCode := invoice.seller.activityCode
  internalID := firstGiven invoice.internalId (UuidText.writeUuid fields.id)
  invoiceLines := invoice.lineItems.map invoice.etaLine
  totalSalesAmount := major invoice.netAmountBeforeVat
  totalDiscountAmount := major invoice.totalDiscount
  netAmount := major (invoice.netAmountBeforeVat - invoice.totalDiscount)
  taxTotals := [("T1", major invoice.vatAmount)]
  totalAmount := major invoice.grandTotal
  extraDiscountAmount := major invoice.extraDiscount

end Invoice
end Numu.Invoices

import HostReport.Bgp
import HostReport.Logging
import HostReport.Main
import HostReport.Proofs.AddressTranslation.Inquiry
import HostReport.Proofs.GeoIp.Lookup
import HostReport.Proofs.Stun.Decoding
import HostReport.Proofs.Stun.Extent
import HostReport.Proofs.GeoIp.FanIn
import HostReport.Proofs.GeoIp.Completion
import HostReport.Proofs.GeoIp.Refusal
import HostReport.Proofs.AddressTranslation.Servers
import HostReport.Proofs.AddressTranslation.Translator
import HostReport.Proofs.Host.Locality
import HostReport.Proofs.Collector.Looking
import HostReport.Proofs.AddressTranslation.Conversation
import HostReport.Proofs.Collector.Writing
import HostReport.Proofs.Collector.Ownership
import HostReport.Proofs.Ipv6.Scope
import HostReport.Proofs.Ipv6.Advertisement
import HostReport.Proofs.Ipv6.Mask
import HostReport.Proofs.Ipv6.PlatformSources
import HostReport.Proofs.Ipv6.Discovery
import HostReport.Proofs.Report.BlankLines
import HostReport.Proofs.Collector.Containment
import HostReport.Proofs.Report.Gate
import HostReport.Proofs.Ipv6.AddressListing
import HostReport.Proofs.Ipv6.SectionListing
import HostReport.Proofs.Ipv6.NetworkSettings
import HostReport.Proofs.Ipv6.ListingFormats
import HostReport.Proofs.AddressTranslation.MappedAddress
import HostReport.Proofs.GeoIp.NetworkText
import HostReport.Proofs.GeoIp.NetworkNumber
import HostReport.Proofs.AnnouncedPrefix
import HostReport.Proofs.Collector.Devices
import HostReport.Proofs.Collector.Features
import HostReport.Proofs.Settings
import HostReport.Proofs.Address.Masking
import HostReport.Proofs.Graphics
import HostReport.Proofs.Listings
import HostReport.Proofs.Report.SystemPart
import HostReport.Proofs.Storage.Size
import HostReport.Proofs.Processor.Clock

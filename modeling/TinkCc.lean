import TinkCc.LibBase128
import TinkCc.ProtoState
import TinkCc.ProtoHelpers
import TinkCc.ProtoWire
import TinkCc.ProtoMessage
import TinkCc.ProtoSerialize
import TinkCc.ProtoGrammar
import TinkCc.ProtoRoundTrip
import TinkCc.EncryptingStream
import TinkCc.DecryptingStream
import TinkCc.StreamingAead
import TinkCc.RandomAccess
import TinkCc.RandomAccessRead
import TinkCc.RandomAccessIntegrity
import TinkCc.LibBigEndian
import TinkCc.StreamSegments
import TinkCc.AesGcmHkdfStreaming
import TinkCc.AesCtrHmacStreaming
import TinkCc.SegmentNonces
import TinkCc.LibNarrow
import TinkCc.BufferedInputStream
import TinkCc.DecryptingInputStream
import TinkCc.RandomAccessMatching
import TinkCc.Keyset
import TinkCc.KeysetManager
import TinkCc.KeysetHandle
import TinkCc.KeysetHandleBuilder
import TinkCc.LibBuckets
import TinkCc.PrimitiveSet
import TinkCc.KeysetWrapper
import TinkCc.SetWrapper
import TinkCc.JwtValidator
import TinkCc.JwtFormat
import TinkCc.JwtImpl
import TinkCc.LibBase64
import TinkCc.JwtRoundTrip
import TinkCc.JwtSetWrapper
import TinkCc.JwtPublicKeys
import TinkCc.JwkSetConverter
import TinkCc.JwkSetKeys
import TinkCc.JwkSetRoundTrip
import TinkCc.HkdfInputStream
import TinkCc.DerivableKeyTypes
import TinkCc.EcdsaKeys
import TinkCc.KeyManagers
import TinkCc.KeyDerivers
import TinkCc.PrfBasedDeriver
import TinkCc.DeriverAgreement
import TinkCc.EcdsaAgreement
import TinkCc.RegisteredClaims
import TinkCc.KeysetHandleCopy
import TinkCc.StreamingParameters
import TinkCc.ProtoMerge
import TinkCc.ChunkedMac
import TinkCc.PrehashSigning
import TinkCc.KeyTypeInfoStore
import TinkCc.StoredKeys
import TinkCc.EcdsaFormat
import TinkCc.EciesKeys
import TinkCc.EciesFormat
import TinkCc.EcKeyFormats
import TinkCc.KeysetDeriver
import TinkCc.RsaKeys
import TinkCc.RsaFormat
import TinkCc.RsaKeyFormats
import TinkCc.EciesDemHelper
import TinkCc.EncryptThenAuthenticate
import TinkCc.RsaEncodingLengths
import TinkCc.StreamingMac
import TinkCc.HkdfStreamingPrf
import TinkCc.JsonPaths
import TinkCc.RawJwtBuilder
import TinkCc.LibBlocks
import TinkCc.LibCmac
import TinkCc.LibGf128
import TinkCc.AesSiv
import TinkCc.AesEax
import TinkCc.Cords
import TinkCc.CordAesGcm
import TinkCc.CordAesGcmSiv
import TinkCc.XAesGcm
import TinkCc.FileOutputStreams
import TinkCc.FileInputStreams
import TinkCc.RandomAccessTransient
import TinkCc.KeyPairClasses
import TinkCc.PublicKeysetHandle
import TinkCc.EcKeyPairs
import TinkCc.PublicKeysetShape
import TinkCc.LibThreads
import TinkCc.MonitoredWrappers
import TinkCc.KeysetWrapperStore
import TinkCc.Registry
import TinkCc.RegistryFips
import TinkCc.RegistryThreads
import TinkCc.Configuration
import TinkCc.KeyGenConfiguration
import TinkCc.KeysetLifecycle
import TinkCc.KeyManagerImpl
import TinkCc.KmsEnvelopeAead
import TinkCc.PublicKeyDistribution
import TinkCc.EcPoints
import TinkCc.LibKemDem
import TinkCc.EciesHybrid
import TinkCc.HpkeKeys
import TinkCc.HpkeHybrid
import TinkCc.LibFirstWins
import TinkCc.MutableSerializationRegistry
import TinkCc.ProtoSerializations
